/-!
# `TermAudit.Text.CharacterName.NamesOfB`: names of characters, first letters `B`

The names come in order. Before each one stands, as a number with the digits `a` to `z`, how many
code points it has in common with the one before. Line breaks count for nothing.
-/

set_option autoImplicit false

namespace TermAudit.CharacterName

/-- The names that begin with `B`. -/
def namesOfB : String :=
  "aBABYe ANGELfBOTTLEfCHICKfSYMBOLcCK OF ENVELOPEfWITH LEFTWARDS ARROW ABOVEe-TILTED SHADOWED WHIT
E RIGHTWARDS ARROWeSLANTED SOUTH ARROW WITH HOOKED TAILbfRIZONTAL TAILfPACEdONdTRIAN CAMELcDGERdMIN
TON RACQUET AND SHUTTLECOCKcGELdGAGE CLAIMdUETTE BREADcLINESE ADEG ADEGjCARIK PAMUNGKAHrRERENpSIKIj
DIGIT EIGHTpFIVEqOURpNINEpONEpSEVENqIXpTHREEqWOpZEROjLETTER AIKARArKARAv TEDUNGrRCHAIC JNYArSYURA S
ASAKqBAs KEMBANGqCAs LACAqDAs MADUuURDA ALPAPRANAzMAHAPRANAqEF SASAKrKARAqGAs GORAqHAqIKARAv TEDUNG
qJAs JERAqKAs MAHAPRANAsF SASAKrHOT SASAKqLAs LENGAy TEDUNGqMAqNAs RAMBATrGArYAqOKARAv TEDUNGqPAs K
APALqRAs REPAx TEDUNGqSAs SAGAvPAqTAs LATIKtMURDA MAHAPRANAtTAWArZIR SASAKqUKARAv TEDUNGqVE SASAKqW
AqYAqZAL SASAKjMUSICAL SYMBOL COMBINING BENDEbiENDEPbiGONGbiJEGOGANbiKEMPLIbo WITH JEGOGANbmULbo WI
TH JEGOGANbiTEGEHyDAENGbaINGbaNGbc GEDEbdSURANGzENGbaUNGzINGzONGzUNGyLEFT-HAND CLOSED PLAKbrUKbiOPE
N PANGboINGboUNGyRIGHT-HAND CLOSED TAKbrUKbjOPEN DAGbpUGjPAMADAp LANTANGmENENGlNTIo LANTANGjSIGN BI
SAHoCECEKoREREKANoSURANGoULU CANDRAsRICEMjVOWEL SIGN LA LENGAbc TEDUNGuPEPETz TEDUNGuRA REPAbb TEDU
NGuSUKUy ILUTuTALINGba REPAbf TEDUNGbbTEDUNGvEDUNGuULUx SARIjWINDUdL OF YARNeET SHOESeOONh-SPOKED A
STERISKfT BOLD SCRIPT XjXk WITH BALLOTrOLD CHECKvSCRIPT XqCHECKqLIGHT XqSCRIPT XqXhSCRIPT XhXcMUM C
OLONiMBINING MARK KOQNDONvTUKWENTISjMAgFULL STOPgLETTER AnEEnFAAMAEoEEoOMoUnInKAoENpTpUXoIoOpGHOMpV
UUoPAoUoYEEnLAoEEEEoIoOQoUnMoAoBAApENoEEEEpNoIoOoUnNAoDAAoGApGApKWAENoIoJAEMpEEpUAEoSHAoTEEpUUoUpAE
oYInOnPAoEEpUXoHASE-A FIRIvGBIEE FONwHEUAEGHEUAEbbRAEvKAFAxQwETxUKEUTNDAwPOQwUOQvLAPAQwET KUTwOMMAE
wUxAEPvMAEKEUPyMzBGBIEEzKPENzVEUXyNYIySIxNSUAExP PIEETwBANYIyQwEUNJOMNDEUQwGBASAwON NGGEUAETxOMEUTz
PUQwVEUAENGAMvNAA MFONxQwDA LEERAEWAyANGGEUAETwENwGANGUxGENxKUE MFONbaNZEUMwIKAwJAMwKAARAExINDIwSHA
yIEEwTAPz MFAAbaNTAAxOQPENwYETxIyT MONGKEUAEQwZA MFONxUN MEUTvPA LEERAEWAxAMyRAExMSHAExSHAEwETwON M
FON PIPAEMBAbkGBIEEzPA NJI PIPAEMBAbmGBIEEwUPvROMvSEUNYAMwHINDA PA NJIyRAExOQ NSHUT YUMxUENSHUETyMw
ISAwONJAMxQxTwUUvTEUAENyTEUWENwITA MFONwU MAEMBAxAEPvU YUQ NAEwNKNOWNvVEEtB FEExUXvGHEUGHENbcUAEMvK
AMwEUAEMyPUQyYEUXwIEEMxQvLAANAExM NSHUT NYAMwETwOM NTEUMvMAx NJEUAENAbaUQAwBA MAELEEyARAExEURIxIT M
BAAKETxUOQwEUQyT NGGEETwFIYAQxON TEUAEQwONTIEENvNDU NJAAwGGAAMyEU MBUyUOQbb LARGExKINDI MVOPxOMwSEN
xHUETwTIEE SHEUOQwYAEMAExI NTEUMvPARUMwEESHIwITwUNGAAMvSAKEUAEwET TUwHET NJAQyUAEQTUwIEEwUEvTAAMw
U MAEMGBIEEyNSIEEvVEUMvWUAETvYAFU LEERAEWAwEURAEtC BUNGvFUEvGBAYIwHAPyRAEvKAAwEN FATIGUEzLAWxTxUKAQ
yMySEUXzHEUAEPwPARAQwUOP NKAARAExTvLAMxPwIQwUvMA KEUAERIyNSIEExEMBAySIwBAA CABBAGE-TREEbaPICKETyNYI
xEEKEETyRAEyUMzXxIyRIEENyTxUAEMyEwGBASAQwIEEwUAEvNANSANAQxQwDAMyPxEUAEREEzTxIDAxOMBUwGAQxGENyUzAE
N NYAMzEETzMzONxKAQyUE MAEMBAxOMwJAEMyMxEEEEyUXxUEQwSAxEUAENxHAQxOMxUNyOT NGOMwTAAxENyUNGBAxU MBITw
YIR MKPARAQ MEUNwZAxEUMvPENwINxRIEENvRUvSETFONxUXwHIQxUEQwUAETvTAASHAEwETxUTEUXwITA YUEyUAEPvVEUAEP
ENyXvWANGKUOQwUPvYAAwEUQwU MUOMAExMxWOQtD FAAwEUFEUAETvGHAAxEUAEvKETxUAETMEUNyMyOT MBUAEyPwUxNxOMxQ
wWAETwYEEvLEEEExTxUAEPyMwIEEwOQwUMvMwAENJETxLEERIwBAAz SEVENxUOwEEEExUNyTwFEUAEzTxIEExOyNwGBEUNyIEE
yOFUMwONIwUwVOPvNDAMxEEyUXxONwGGAAMbbAEzPyEUXyUOMyWAENxKAPyEUAEQbaRIyIEEyUNyYEEwIwJAPxEUAEMzTxIyEEx
UEQwSHEEyUTxIEEPbaTxUMwTEEyUMxUUwUwYAMxETxIxUEvPAPwEExUTAEwIPwUQxUTvRAEMwEN MUCHzOLDwIIvSAPxQwEUAEQ
wHEEyUAEzXxIIxOQxUwOTwUAExExUvTAEwEEEExUAENyNyTwIwOQwUxOTvWAPwUAENvYAEMMAEwENwUOMyPxWOQtE AvFAxQwEE
wOMwU CALLyIyREMEDYxEyTvGBETyUXwHAAMAExETyUAEzNzXxOMvIvKETxUAEyXwIwOwPEUXwUETxOPxTvLAAMxPxQwEUAEMwO
MxONyTxQwUvMAxEyMxPxQwBEEyUMwENwFEUQwGBAyENwIxEEwONwUAEwVIvNAxEwDAA MY HOUSEbaSOFTNESSyPxIAQyQxUNwG
AxEUREUTxGEEEEzUAEbcTyUAESHAE NYAMzPzRAExKAzAMIyEUAEMbaXyUMzPxOPyQxUAEbaTwJAEMLIxEEz EPOCHyUXwKOMwS
HIEEyUEzOPwTAPxUMwYI BETWEENzCLEAVERwZAQxUQvOvPA PEOPLEzLURALxAyMwEEMxUTyXwIxEEQyTwOxONwUxAEyQxExMv
RAExQwEUXwIMGBAvSAAwEExTwHEUAEQxIQxOyQwOMwUAENvTAAyQxEN NTEUMxMxQwENxUyAEQwOOyNxQwUAExMyAEvVEExUAEw
OMvWEUXwUExOvYAPwEUAEbaTyMyXwIEExTwOQ COVERzSWIMMINGwUAENxEQxNxQtF EEvFOMvKAwENxTwOwPAwUwYEEvLAwIwO
QvMwAwBAAxENwEEEEwOvNDAAwGGAxKWAENwIwJAEMxUAEwSHAwTEEwUxAEwYIvPEExUXwUAEvREExNxUXwIEExIwUvSAMBAwEUX
wHIIxOxUwIwUUvTAAxEwETvUvVUEQvWAwUEvYAwOQoIoUAEpEnRAEoEEpNpUXoIEEpIoUnSAMBAoEUXoHEUXpIIpOpUoIoUUnTA
ApEoENpToInUnWAoUEnYAoOQoUQgNJAEMLIgQUESTION MARKgSEMICOLONcNANAdJOdKeNOTE WITH DOLLAR SIGNoEURO SI
GNoPOUND SIGNoYEN SIGNcR CHARTeOF SOAPdBER POLEcSEBALLdKETgBALL AND HOOPdSA VAH COMBINING HIGH TONE
y-LOW TONEuLOW TONEx-MID TONEuMID TONEkFULL STOPkLETTER ArBArCErDHIIsOrEsEsNNIrFArGAHsBUrHWAHrIrJOr
KAsPAHrMBErOsOrPArSErTOrUsWUrVUrWAtDDArYEINsIErZOcTdAK CONSONANT SIGN HvNGgLETTER AnBAnCAnDAnGAnHAn
InJAnKARO BAnLAnMApNDAILING HAyNAySAoBAnNAoDAoGAoORTHERN TAoYAnPApKPAK WAnRAnSAoIMALUNGUN AyGAyHAyL
AyMAyPAyRAySAyWAyYAoOUTHERN TAnUnWAnYAgPANGOLATjONGONANgSIGN TOMPIhYMBOL BINDU JUDULtNA METEKtPANGO
LATuINARBORASgVOWEL SIGN EsErIrKARO IwOrOrPAKPAK ErUs FOR SIMALUNGUN SAdHeTUBdTERYbEACH WITH UMBREL
LAdMED ASCENDING MUSICAL NOTEShDESCENDING MUSICAL NOTEShEIGHTH NOTEShSIXTEENTH NOTESdNSdR FACEeDE
D PERSONdTING HEARTdVERcCAUSEcDcER MUGdTLEcLdLe PEPPERfSYMBOLfWITH CANCELLATION STROKEeHOP BELLcNGA
LI ABBREVIATION SIGNjNJIjU LENGTH MARKiCURRENCY DENOMINATOR SIXTEENrNUMERATOR FOURbbONEbe LESS THA
N THE DENOMINATORbbTHREEbcWOiDIGIT EIGHToFIVEpOURoNINEoONEoSEVENpIXoTHREEpWOoZEROiGANDA MARKiISSHAR
iLETTER AqAqIqUpBAqHApCAqHApDAqDArHAqHApEpGAqHApHApIqIpJAqHApKAqHAsNDA TApLApMApNAqGAqNAqYApOpPAqHA
pRAr WITH LOWER DIAGONALxMIDDLE DIAGONALqHAqRApSAqHAqSApTAqHAqTArHApUqUpVEDIC ANUSVARAqOCALIC LyLxR
yRpYAqYAiRUPEE MARKoSIGNiSANDHI MARKjIGN ANUSVARAoVAGRAHAnCANDRABINDUnNUKTAnVIRAMApSARGAiVOWEL SIG
N AAuIuUtEtIuItOtUuUtVOCALIC LbcLbbRbcRdT ARROW POINTING DOWNWARDS THEN NORTH EASTeO BOXdZENE RING
m WITH CIRCLEcT SYMBOLdWEENcVERAGE BOXbHAIKSUKI DANDAlIGIT EIGHTqFIVErOURqNINEqONEqSEVENrIXqTHREErW
OqZEROlOUBLE DANDAkGAP FILLER-1v2kHUNDREDS UNIT MARKkLETTER AsAsIsUrBAsHArCAsHArDAsDAtHAsHArErGAsHA
rHArIsIrJAsHArKAsHArLArMArNAsGAsNAsYArOrPAsHArRArSAsHAsSArTAsHAsTAtHArUsUrVAsOCALIC LzRbaRrYAkNUMBE
R EIGHTwYrFIFTYtVEsORTYtURrNINEvTYrONErSEVENwTYsIXuTYrTENsHIRTYtREEsWENTYtOkSIGN ANUSVARAqVAGRAHApC
ANDRABINDUpVIRAMArSARGAkVOWEL SIGN AAwIwUvEvIwIvOvUwUvVOCALIC LbdRbeRkWORD SEPARATORbICYCLEgISTcG R
EVERSE SOLIDUSeSOLIDUScKINIcLLED CAPeIARDScOHAZARD SIGNcRDdTHDAY CAKEcSONcTCOIN SIGNdING LIPbLACK B
OWTIEgCENTRE WHITE STARhHESS BISHOPs ROTATED NINETY DEGREESbbTWO HUNDRED SEVENTY DEGREESmEQUIHOPPER
w ROTATED NINETY DEGREESmKINGq ROTATED NINETY DEGREESzTWO HUNDRED SEVENTY DEGREESnNIGHTs ROTATED FO
RTY-FIVE DEGREESbbNINETY DEGREESbbONE HUNDRED THIRTY-FIVE DEGREESbbTHREE HUNDRED FIFTEEN DEGREESbcW
O HUNDRED SEVENTY DEGREESbnTWENTY-FIVE DEGREESs-BISHOPtQUEENtROOKmPAWNq ROTATED NINETY DEGREESzTW
O HUNDRED SEVENTY DEGREESmQUEENr ROTATED NINETY DEGREESbaTWO HUNDRED SEVENTY DEGREESmROOKq ROTATE
D NINETY DEGREESzTWO HUNDRED SEVENTY DEGREESmTURNED BISHOPtKINGuNIGHTtPAWNtQUEENtROOKhIRCLEm FOR RE
CORDnWITH DOWN ARROWsTWO WHITE DOTSsWHITE DOT RIGHThLUB SUIThROSS ON SHIELDhURVED DOWNWARDS AND LEF
TWARDS ARROWbbRIGHTWARDS ARROWnLEFTWARDS AND DOWNWARDS ARROWbbUPWARDS ARROWnRIGHTWARDS AND DOWNWARD
S ARROWbcUPWARDS ARROWnUPWARDS AND LEFTWARDS ARROWzRIGHTWARDS ARROWgDIAMONDn CENTREDoMINUS WHITE Xo
ON CROSSoSUIToWITH DOWN ARROWhOWN POINTING BACKHAND INDEXk-POINTING DOUBLE TRIANGLEuISOSCELES RIGH
T TRIANGLEuSMALL TRIANGLEuTRIANGLEkWARDS EQUILATERAL ARROWHEADhRAUGHTS KINGpMANiOPLETgFLAGiORETTEhO
LDERiUR POINTED STARgHARD SHELL FLOPPY DISKhEARTl SUITiXAGONhORIZONTAL ELLIPSEiURGLASSgLARGE CIRCLE
mSQUAREhEFT LANE MERGElPOINTING BACKHAND INDEXuINDEXk-POINTING DOUBLE TRIANGLEbj WITH VERTICAL BARu
ISOSCELES RIGHT TRIANGLEuPOINTERuSMALL TRIANGLEuTRIANGLEkWARDS BULLETqEQUILATERAL ARROWHEADhOWER LE
FT TRIANGLEmRIGHT TRIANGLEiZENGEgMEDIUM DIAMONDoOWN-POINTING TRIANGLEbj CENTREDnLEFT-POINTING TRIAN
GLEbj CENTREDoOZENGEnRIGHT-POINTING TRIANGLEbk CENTREDnSMALL DIAMONDtLOZENGEtSQUAREoQUAREnUP-POINTI
NG TRIANGLEbh CENTREDhOON LILITHgNIBgOCTAGONgPARALLELOGRAMhENNANTjTAGONhUSHPINgQUESTION MARK ORNAME
NTgRECTANGLEhIGHT POINTING BACKHAND INDEXvINDEXl-POINTING DOUBLE TRIANGLEbk WITH VERTICAL BARvISOSC
ELES RIGHT TRIANGLEvPENTAGONwOINTERvSMALL TRIANGLEvTRIANGLEbd WITH DOUBLE VERTICAL BARlWARDS ARROWw
HEADrBULLETrEQUILATERAL ARROWHEADhOSETTEgSAFETY SCISSORShCISSORShHOGI PIECEhKULL AND CROSSBONEShLIG
HTLY SMALL CIRCLEvSQUAREhMALL DIAMONDmLOZENGEmSQUAREnTARiILING FACEhNOWMANhPADE SUIThQUAREm BUTTONn
CENTREDnFOR STOPhTARhUN WITH RAYSgTELEPHONEhINY DIAMONDlLOZENGElSQUAREhOUCHTONE TELEPHONEhRUCKhWO-W
AY LEFT WAY TRAFFICgUNIVERSAL RECYCLING SYMBOLhP POINTING BACKHAND INDEXi-POINTING DOUBLE TRIANGLEs
ISOSCELES RIGHT TRIANGLEsSMALL TRIANGLEsTRIANGLEiPER LEFT TRIANGLEmRIGHT TRIANGLEiWARDS EQUILATERA
L ARROWHEADgVERTICAL ELLIPSEpRECTANGLEjY SMALL DIAMONDrLOZENGErSQUAREf-FEATHERED NORTH EAST ARROWqR
IGHTWARDS ARROWqSOUTH EAST ARROWgLETTER CAPITAL CvHvIvRvZdNK SYMBOLcOCK SEXTANT-1p2q3r4s5s6r5s6r6q4
r5s6r6q5r6q6p3q4r5s6r6q56q6p4q5r6q6p5q6p6o2p3q4r5s6r6q5r6q6p4q5r6p5q6p6o3p4q5r6q6p5q6p6o4p5q6p6o5p6
o6dSSOMdWFISHcUE BOOKfHEARTeBERRIESbOARcLD EIGHT SPOKED ASTERISKfFIVE SPOKED ASTERISKfGREEK CROSSfS
ALTIREgIX SPOKED ASTERISKfWHITE CIRCLElSQUAREcMdBcNEcOKeMARKi TABSeSdMERANGcPOMOFO FINAL LETTER GwH
wKwPwTjLETTER ArHrIsNNrMrNsGsNrUsNNqBrUqCrHqDqErErHrIrNsGsNrRqFqGrHrNrUrWqHqIrHrMrNNtNrRrUqJrIqKrWq
LrHqMqNrGsGrNqOr WITH DOT ABOVErErMrNGsNrOrUqPqQqRqSrHqTqUrNNqVqXqZrHrIrYcTTLE WITH POPPING CORKeO
M ARC ANTICLOCKWISE ARROWhCURLY BRACKEThHALF BLACK CIRCLEmINTEGRALmLEFT PARENTHESISmRIGHT PARENTHES
IShLEFT CORNERnROPmHALF BRACKEThPARENTHESIShRIGHT CORNERoROPnHALF BRACKEThSQUARE BRACKETv OVER TO
P SQUARE BRACKEThTORTOISE SHELL BRACKETcUQUETh OF FLOWERScW AND ARROWdL OF HYGIEIAfWITH SPOONeINGdT
IEg WITH LEFT HALF BLACKmRIGHT HALF BLACKcX DRAWINGS DOUBLE DOWN AND HORIZONTALbdLEFTbdRIGHTuHORIZO
NTALuUP AND HORIZONTALbbLEFTbbRIGHTuVERTICALbc AND HORIZONTALbhLEFTbhRIGHTpWN DOUBLE AND HORIZONTA
L SINGLEbdLEFT SINGLEbdRIGHT SINGLEsHEAVY AND HORIZONTAL LIGHTbcLEFT LIGHTbhUP LIGHTbcRIGHT LIGHTbi
UP LIGHTbcUP HORIZONTAL LIGHTsLIGHT AND HORIZONTAL HEAVYbcLEFT HEAVYbhUP HEAVYbcRIGHT HEAVYbiUP HEA
VYbcUP HORIZONTAL HEAVYsSINGLE AND HORIZONTAL DOUBLEbdLEFT DOUBLEbdRIGHT DOUBLEnHEAVY DOUBLE DASH H
ORIZONTALbfVERTICALvWNx AND HORIZONTALbcLEFTbcRIGHTtHORIZONTALtLEFTx AND LIGHT RIGHTtQUADRUPLE DAS
H HORIZONTALbiVERTICALtRIGHTtTRIPLE DASH HORIZONTALbfVERTICALtUPv AND HORIZONTALbaLEFTbbIGHT DOWNba
RIGHTtVERTICALbb AND HORIZONTALbgLEFTbgRIGHTnLEFT DOWN HEAVY AND RIGHT UP LIGHTsHEAVY AND RIGHT DOW
N LIGHTbiUP LIGHTbiVERTICAL LIGHTsLIGHT AND RIGHT DOWN HEAVYbiUP HEAVYbiVERTICAL HEAVYsUP HEAVY AN
D RIGHT DOWN LIGHToIGHT ARC DOWN AND LEFTbgRIGHTxUP AND LEFTbeRIGHTtDIAGONAL CROSSbcDIAMONDbcMIDDL
E LEFT TO LOWER CENTREcd TO MIDDLE RIGHTbrUPPER CENTRE TO MIDDLE RIGHTct TO LOWER CENTREbjRIGHT T
O LOWER CENTREbsUPPER CENTRE TO MIDDLE LEFT TO LOWER CENTREbcUPPER CENTRE TO MIDDLE LEFTcd AND MIDD
LE RIGHT TO LOWER CENTREceTO LOWER CENTREct TO MIDDLE RIGHTbzRIGHTce AND MIDDLE LEFT TO LOWER CENTR
EcfTO LOWER CENTREcu TO MIDDLE LEFTbiLEFT TO LOWER RIGHTbiRIGHT TO LOWER LEFTuOUBLE DASH HORIZONTAL
bfVERTICALvWNx AND HORIZONTALbcLEFTbcRIGHTtHORIZONTALbd WITH VERTICAL STROKEtLEFTx AND HEAVY RIGHTt
QUADRUPLE DASH HORIZONTALbiVERTICALtRIGHTtTRIPLE DASH HORIZONTALbfVERTICALtUPv AND HEAVY DOWNbbORIZ
ONTALbaLEFTbaRIGHTtVERTICALbb AND HORIZONTALbgLEFTbgRIGHTnRIGHT DOWN HEAVY AND LEFT UP LIGHTtHEAV
Y AND LEFT DOWN LIGHTbiUP LIGHTbiVERTICAL LIGHTtLIGHT AND LEFT DOWN HEAVYbiUP HEAVYbiVERTICAL HEAVY
tUP HEAVY AND LEFT DOWN LIGHTnUP DOUBLE AND HORIZONTAL SINGLEbbLEFT SINGLEbbRIGHT SINGLEqHEAVY AN
D DOWN HORIZONTAL LIGHTbaHORIZONTAL LIGHTbaLEFT DOWN LIGHTbfLIGHTbaRIGHT DOWN LIGHTbgLIGHTqLIGHT AN
D DOWN HORIZONTAL HEAVYbaHORIZONTAL HEAVYbaLEFT DOWN HEAVYbfHEAVYbaRIGHT DOWN HEAVYbgHEAVYqSINGLE A
ND HORIZONTAL DOUBLEbbLEFT DOUBLEbbRIGHT DOUBLEnVERTICAL DOUBLE AND HORIZONTAL SINGLEbhLEFT SINGLEb
hRIGHT SINGLEwHEAVY AND HORIZONTAL LIGHTbgLEFT LIGHTbgRIGHT LIGHTwLIGHT AND HORIZONTAL HEAVYbgLEF
T HEAVYbgRIGHT HEAVYwSINGLE AND HORIZONTAL DOUBLEbhLEFT DOUBLEbhRIGHT DOUBLEdING GLOVEcYdS SYMBOLbP
HbRAHMI DANDAiIGIT EIGHTnFIVEoOURnNINEnONEnSEVENoIXnTHREEoWOnZEROiOUBLE DANDAhLETTER ApApIpUoBApHAo
CApHAoDApDAqHApHAoEoGApHAoHAoIpIoJApHAoKApHAoLApLAoMAoNApGApNApYAoOpLD TAMIL LLAbaLAyNNNAyRRAySHOR
T EbeOoPApHAoRAoSApHApSAoTApHApTAqHAoUpUoVApOCALIC LxLwRxRoYAhNUMBER EIGHTtYoFIFTYqVEpORTYqURoJOINE
RoNINEsTYoONEr HUNDREDsTHOUSANDoSEVENtTYpIXrTYoTENpHIRTYqREEpWENTYqOhPUNCTUATION CRESCENT BARtDOTvU
BLE DOTtLINEuOTUShSIGN ANUSVARAmCANDRABINDUmJIHVAMULIYAmOLD TAMIL VIRAMAmUPADHMANIYAmVISARGAhVIRAMA
iOWEL SIGN AAtItUsBHATTIPROLU AAsEsItIsOtLD TAMIL SHORT EbiOsUtUsVOCALIC LbbLbaRbbRdILLE PATTERN BL
ANKqDOTS-1w2x3y4z5ba6bb7bc8bb8ba7bb8ba8z6ba7bb8ba8z7ba8z8y5z6ba7bb8ba8z7ba8z8y6z7ba8z8y7z8y8x4y5z6b
a7bb8ba8z7ba8z8y6z7ba8z8y7z8y8x5y6z7ba8z8y7z8y8x6y7z8y8x7y8x8w3x4y5z6ba7bb8ba8z7ba8z8y6z7ba8z8y7z8y
8x5y6z7ba8z8y7z8y8x6y7z8y8x7y8x8w4x5y6z7ba8z8y7z8y8x6y7z8y8x7y8x8w5x6y7z8y8x7y8x8w6x7y8x8w7x8w8v2w3
x4y5z6ba7bb8ba8z7ba8z8y6z7ba8z8y7z8y8x5y6z7ba8z8y7z8y8x6y7z8y8x7y8x8w4x5y6z7ba8z8y7z8y8x6y7z8y8x7y8
x8w5x6y7z8y8x7y8x8w6x7y8x8w7x8w8v3w4x5y6z7ba8z8y7z8y8x6y7z8y8x7y8x8w5x6y7z8y8x7y8x8w6x7y8x8w7x8w8v4
w5x6y7z8y8x7y8x8w6x7y8x8w7x8w8v5w6x7y8x8w7x8w8v6w7x8w8v7w8v8eNcEADeK PERMITTED HEREeST-FEEDINGdVEcI
CKdDE WITH VEILeGE AT NIGHTdEFCASEfScOCCOLIdKEN BARhCIRCLE WITH NORTHWEST ARROWhHEARTdOMdWN HEARTbS
bUBBLE TEAgScCKETcGdINESE END OF SECTIONjLETTER AqBAqCAqDAqGAqHAqJAqKAqLAqMArPAqNArGAsKArRArYAsCAqP
AqRAqSAqTAqVAqYAjPALLAWAjVOWEL SIGN AEuEuIuOuUcHID LETTER AnBAnDAnGAnHAnInKAnLAnMAnNAoGAnPAnRAnSAnT
AnUnWAnYAgVOWEL SIGN IrUcILDING CONSTRUCTIONcLLETg OPERATOReHORNi WITH SOUND WAVESeSEYEcRRITOcSd ST
OPdT IN SILHOUETTEeS IN SILHOUETTEcTTERgFLYbYTE ORDER MARKcZANTINE MUSICAL SYMBOL AGOGI ARGIbiOTERI
bfGORGIbjOTERIbfMESIbhTRIAbfPOLI ARGIbkGORGIbaNATRICHISMAbbTIKENOKYLISMAbhMAbaPESO EKFONITIKONbgX
O NEObbLIbbODERMA ARCHAIONbiNEObcSTROFOI SYNDESMOS NEObkTELOUS ICHIMATOSbiSbj DIPLIbkNEObcTHEMAbaRG
ONbdSYNTHETONbbKTIKO DIbhGAbhKEbhNIbhPAbhVOUbhZOzCHAMILIbfONbbOREVMA ARCHAIONbiNEObbROA KLITONbfSPA
THIbfZYGOSzDASEIAbaIARGONbcSTOLI APLI MEGALIboIKRIbiDIPLIbiTHESEOSbbESIS APLI DYO DODEKATAbgDIGRAMM
OS EX DODEKATAbgMONOGRAMMOS TESSERA DODEKATAbgTETARTIMORIONbhRIGRAMMOS OKTO DODEKATAbjTIMORIONbbFTO
GGOS OUbbGORGONbh PARESTIGMENON ARISTERA ANOcfKATObwDEXIAbcRAMMA GGbbPLIbe ARCHAIONbaYOzEKSTREPTONb
aLAFRONbaNARXIS KAI FTHORA VOUbbDOFONONbaPEGERMAbaTERON ARGOSYNTHETONbgPARAKALESMAbaXO EKFONITIKONz
FANEROSIS DIFONIASbjMONOFONIASbjTETRAFONIASbaHTORA SKLIRON CHROMA VASISbaTHORA ARCHAIONbo DEYTERO
U ICHOUbgDIATONIKI DIbqKEbqNANAbrI ANObtKATObqPAbqZObgENARMONIOS ANTIFONIAbgI YFESIS TETARTIMORIONb
gMALAKON CHROMA DIFONIASbvMONOFONIASbgNAOS ICHOSbhENANObgSKLIRON CHROMA SYNAFIbvVASISboDIATONON DIz
GENIKI DIESISbgYFESISbaORGON ARCHAIONbgNEO ANObkKATObgPARESTIGMENON ARISTERAbuDEXIAbeSYNTHETONbcTHM
IKON N APLOUNbmDIPLOUNbaRONTHISMATAzICHADINbaMIDIARGONbcFONONbdTHORAbhONbaSAKIA TELOUS ICHIMATOSbbO
N ARCHAIONbeNEOzKATAVA TROMIKONbfSMAbcHISTIbaENTIMA ARCHAIONbhNEO ANOblKATOblMESObgTAbi ARCHAIONbjN
EO ANObnKATObnMESObaLASMAbf ANObgKATObaONTEVMAbh ALLObbRONISbbUFISMAbaRATIMA ALLObiRCHAIONbhNEObgTA
bfOKOUFISMAbgYPORROONbbEMASTIbaYLISMAzLEIMMA DYO CHRONONbgENOS CHRONOUbgIMISEOS CHRONOUbgTESSARON C
HRONONbhRION CHRONONbbMOIbaYGISMAzMARTYRIA ALLI DEYTEROS ICHOSbnPROTOS ICHOSbiDEYTEROS ICHOSbiLEGET
OS ICHOSbiPLAGIOS ICHOSbqTETARTOS ICHOSbjROTOS ICHOSbnVARYS ICHOSbiTETARTOS ICHOSbrLEGETOS ICHOSbjR
IFONIASblTOS ICHOSbiVARYS ICHOSbaIKRON ISONzNANAzOLIGON ARCHAIONbgNEObaMALONbaXEIA DIPLIbfEKFONITIK
ONbfNEObeI ARCHAIONbaYRANISMA ARCHAIONbjNEOzPARAKALESMA ARCHAIONblNEObeLITIKIbk ARCHAIONblNEObcICHO
NbaELASTONbh NEObbRISPOMENIbbTASMAbeTIbfOKOUFISMAbaIASMA ARCHAIONbgNEObaSIFISTOLYGISMAbhNbi NEObhPA
RAKALESMAbhSYNAGMAbcLIbdONzRAPISMAbaEVMAzSAXIMATAbaEISMAbf NEObaIMANSIS ARSEOSbo DISIMOUbpTETRASIMO
UbqRISIMOUbiTHESEOSbp DISIMOUbqTETRASIMOUbrRISIMOUbaTAVROSbg APODEXIAbbIGMAbbRAGGISMATAbaYNAGMA ARC
HAIONbhMETA STAVROUbhNEObcEVMAbbRMAbeTIKIzTELEIAbbSSERAbbTRAPLIbaHEMAbe APLOUNbeTISMOS ESObmXObcS K
AI APOTHESbbITAbaINAGMAbaRIAbcGORGONbcPLIbbOMIKOLYGISMAbgN ALLObjRCHAIONbiNEObgPARAKALESMAbhSIFISTO
NbgSYNAGMAzVAREIA DIPLIbgEKFONITIKONbgNEObfI ARCHAIONbbTHYzXIRON KLASMAzYFEN ANObeKATObcSIS APLI DY
O DODEKATAbgDIGRAMMOS EX DODEKATAbgMONOGRAMMOS TESSERA DODEKATAbgTRIGRAMMOS OKTO DODEKATAbjTIMORION
baPOKRISISbi DIPLIbcRROIbbSILI"

end TermAudit.CharacterName
