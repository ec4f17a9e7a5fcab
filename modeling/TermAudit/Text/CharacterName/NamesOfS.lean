/-!
# `TermAudit.Text.CharacterName.NamesOfS`: names of characters, first letters `S`

The names come in order. Before each one stands, as a number with the digits `a` to `z`, how many
code points it has in common with the one before. Line breaks count for nothing.
-/

set_option autoImplicit false

namespace TermAudit.CharacterName

/-- The names that begin with `S`. -/
def namesOfS : String :=
  "aS IN TRIANGLEbAFETY PINhVESTcGITTARIUScILBOATcKE BOTTLE AND CUPcLT SHAKEReIREdUTING FACEcMARITA
N ABBREVIATION MARKkLETTER ALAFrBAAsITrDALATrFIrGAMANrINsTsYrKAAFrLABATrMIMrNUNrQUFrRISHrSHANsINGAA
TrTAAFsITsSAADIYrYUTrZENkMARK DAGESHpEPENTHETIC YUTpINr-ALAFpNEQUDAApOCCLUSIONlODIFIER LETTER EPENT
HETIC YUTbaIbaSHORT AkPUNCTUATION AFSAAQxNGEDyNAAUxRKAANUxTMAAUwBAUwMELODIC QITSAwNEQUDAAwQITSAwSHI
YYAALAAxOF MASHFAATwTURUwZAEFxIQAAkVOWEL SIGN AwAvEvIvLONG AbbAbaEbaIbaUvOwVERLONG AbfAvSHORT AwUKU
NvUcNDWICHdS-SERIF HEAVY DOUBLE COMMA QUOTATION MARK ORNAMENTyTURNED COMMA QUOTATION MARK ORNAMENTr
LOW DOUBLE COMMA QUOTATION MARK ORNAMENTlINTERROBANG ORNAMENTcRIcTELLITEj ANTENNAdURNcURASHTRA CONS
ONANT SIGN HAARUlDANDAmIGIT EIGHTrFIVEsOURrNINErONErSEVENsIXrTHREEsWOrZEROmOUBLE DANDAlLETTER AtAtI
tUsBAtHAsCAtHAsDAtDAuHAtHAsEtEsGAtHAsHAsItIsJAtHAsKAtHAsLAtLAsMAsNAtGAtNAtYAsOtOsPAtHAsRAsSAtHAtSAs
TAtHAtTAuHAsUtUsVAtOCALIC LbbLbaRbbRsYAlSIGN ANUSVARAqCANDRABINDUqVIRAMAsSARGAlVOWEL SIGN AAxIxUwEx
EwIxIwOxOwUxUwVOCALIC LbfLbeRbfReOPODcXOPHONEbCALESdRFcHOOLg SATCHELcIcOOTERdRPIONgUScREENeWDRIVERd
IPT CAPITAL BpEpFpHpIpLpMpPpRhLIGATURE ET ORNAMENThSMALL EnGnLnOdOLLdUPLEbEALdTcCOND PLACE MEDALdTI
ON SIGNeORcDNAcE-NO-EVIL MONKEYdDLINGcGMENThED DIGIT EIGHTqFIVErOURqNINEqONEqSEVENrIXqTHREErWOqZERO
cLFIEcMICOLONeDIRECT PRODUCT WITH BOTTOM CLOSEDeSEXTILEcPARATED SYMBOLcRIOUS FACE WITH SYMBOLS COVE
RING MOUTHdVICE MARKcSAME DOTdQUIQUADRATEcT MINUSeTRANSMIT STATEcWING NEEDLEcXTILEbGCbHADOWED WHIT
E CIRCLEpLATIN CROSSpSTARdLLOW PAN OF FOODdMROCKdRADA ABBREVIATION SIGNiCONTINUATION SIGNiDANDAjIGI
T EIGHToFIVEpOURoNINEoONEoSEVENpIXoTHREEpWOoZEROjOUBLE DANDAiEKAMjXTRA SHORT VOWEL MARKiHEADSTROKEi
LETTER AqAqIqUpBAqHApCAqHApDAqDArHAqHApEpGAqHApHApIqIpJAqHApKAqHApLAqLApMApNAqGAqNAqYApOpPAqHApRApS
AqHAqSApTAqHAqTArHApUqUpVAqOCALIC LyLxRyRpYAiOMiSANDHI MARKjECTION MARK-1v2kPARATORjIGN ANUSVARAoVA
GRAHAnCANDRABINDUnINVERTED CANDRABINDUnJIHVAMULIYAnNUKTAnSIDDHAMnUPADHMANIYAnVIRAMApSARGAjUTRA MARK
iVOWEL MODIFIER MARKoSIGN AAuIuUtEtIuItOtPRISHTHAMATRA EtUuUtVOCALIC LbcLbbRbcReKdVED ICEeIAN LETTE
R ADOqGEqHqIRqRErRAYqSHqWEpBIBpCHURCHpDEADpEARrTqGGqRRpFEEpGAGpHA-HAqUNGpIANqCEqFpJUDGEpKICKpLOLLpM
EASUREqIMEpNUNpOAKqILqNqOZEqRqUTpPEEPpROARpSOqUREpTHEYrIGHqOTpUPpVOWpWOErOLpYEArWpZOOcEEPcIELDdFT I
NgOUTdNTO SHRINEdPcOCKED FACE WITH EXPLODING HEADdOTING STARdPPING BAGSjTROLLEYdRT BACKSLANTED SOUT
H ARROWhENT ARROW POINTING DOWNWARDS THEN NORTH EASTgDOWN TACKp WITH OVERBARgLEFT TACKgRIGHTWARDS A
RROW ABOVE LEFTWARDS ARROWgSLANTED NORTH ARROWgUP TACKn ABOVE SHORT DOWN TACKoWITH UNDERBARfCAKEfHA
ND FORMAT CONTINUING OVERLAPrDOWN STEPrLETTER OVERLAPrUP STEPfSdULDERED OPEN BOXdWERcRIMPdUGcUFFL
E PRODUCTcYbIcDDHAM DANDAjOUBLE DANDAiEND OF TEXT MARKiLETTER AqAqIqLTERNATE UqUpBAqHApCAqHApDAqDAr
HAqHApEpGAqHApHApIqIpJAqHApKAqHApLApMApNAqGAqNAqYApOpPAqHApRApSAqHAqSApTAqHArREE-CIRCLE ALTERNATE I
qTArHAqWO-CIRCLE ALTERNATE IblIpUqUpVAqOCALIC LyLxRyRpYAiREPETITION MARK-1y2y3iSECTION MARK DOUBL
E RINGbg WITH RAYSvWITH CIRCLES AND FOUR ENCLOSURESbmRAYSbmTWO ENCLOSURESbaDOUBLE CRESCENTSbaQUADRU
PLE CRESCENTSbaRAYS AND DOTTED CRESCENTSbqDOUBLE CRESCENTSbqTRIPLE CRESCENTSbaSEPTUPLE CRESCENTSbaT
RIDENT AND DOTTED CRESCENTSbmU-SHAPED ORNAMENTSbdPLE CRESCENTSkPARATOR BARsDOTjIGN ANUSVARAnCANDRAB
INDUnNUKTAnSIDDHAMnVIRAMApSARGAiVOWEL SIGN AAuIuLTERNATE UbeUuUtEtIuItOtUuUtVOCALIC RbcRdEWAYS BLAC
K DOWN POINTING INDEXpLEFT POINTING INDEXpRIGHT POINTING INDEXpUP POINTING INDEXjWHITE DOWN POINTIN
G INDEXpLEFT POINTING INDEXpRIGHT POINTING INDEXpUP POINTING INDEXcGN OF THE HORNSeWRITING AIR BLO
W SMALL ROTATIONSuING OUTqSUCK SMALL ROTATIONSuING INmBREATH EXHALEtINHALEoUSH BETWEENsMULTIPLEsSIN
GLEmCHEEKS NEUTRALtPUFFEDtSUCKEDnOLONoMMAmDREAMY EYEBROWS DOWN NEUTRALbcNEUTRAL DOWNbkUPbcUP NEUTRA
LnYNAMIC ARROWHEAD LARGEbeSMALLuEVERY OTHER TIMEuFASTuGRADUALuRELAXEDuSIMULTANEOUSbg ALTERNATINGvLO
WuTENSEmEARSnXCITEMENTnYE BLINK MULTIPLEwSINGLEqWINKpBROWS STRAIGHT DOWNbeNEUTRALbeUPpGAZE-FLOORPLA
NE CURVEDbfSTRAIGHTbn ALTERNATINGboDOUBLEuWALLPLANE CIRCLINGbfURVEDbeSTRAIGHTbm ALTERNATINGbnDOUBLE
pLASHES DOWNwFLUTTERINGwUPpS CLOSEDrHALF CLOSEDwOPENrOPENrSQUEEZEDrWIDE OPENvNING MOVEMENTmFACE DIR
ECTION POSITION NOSE FORWARD TILTINGbpUP OR DOWNbz TILTINGnILL MODIFIER-2ba3ba4ba5ba6oNGERnLICK LAR
GE MULTIPLEySINGLEsSEQUENTIALtMALL MULTIPLEySINGLEoOORPLANE SHOULDER HIP MOVEnOREHEAD CONTACTvNEUTR
ALvWRINKLEDnULL STOPmGRASP BETWEENsMULTIPLEsSINGLEmHAIRoND-ANGLEw INDEXbc MIDDLE LITTLEbkRINGbdRIN
G LITTLEbo OUTbdTHUMBbi INbjOUTxLITTLE INDEXbj THUMB INDEX THUMBcb OUTbeUPxMIDDLE RING LITTLEbp INb
qOUTxRING DOWN MIDDLE THUMB INDEX CROSSbcLITTLErCIRCLEx INDEXbd BENTbeHINGEbeMIDDLEbk CROSS LITTLEb
qEDblLITTLEblRINGblTHUMBbeRING LITTLEyLITTLE INDEXbfUPyMIDDLE RING LITTLEbq BENTbfUPyRING LITTLEsLA
Wv FOUR FINGERS CONJOINEDwINDEX THUMB CURVE THUMB INSIDEwMIDDLE RING LITTLE CONJOINEDby SIDEwNO THU
MBwTHUMB FORWARDbcSIDEsUPu FIVE FINGERS SPREADbo OPENvINDEXba RING LITTLEbbTHUMBbg OPENvMIDDLE RIN
G LITTLEvNO THUMBvOPENz NO THUMBbaTHUMB FORWARDbgSIDEvTHUMB FORWARDbbSIDEtRLICUEz INDEX RING LITTL
E ONbaMIDDLE RING LITTLE ONbaOPENrFISTv FOUR FINGERS CONJOINED BENTwHEELwINDEXbb BENTbg OVER MIDDLE
bcCUPPEDbcHINGEDbi LOWbjMIDDLE UPbs THUMB SIDEbcMIDDLEbi BENTbn THUMB STRAIGHTbjCONJOINEDbs CUPPEDb
z THUMB FORWARDbtHINGEDbz THUMB SIDEbtINDEX BENTbtMIDDLE BENTbtTHUMB FORWARDbzSIDEcd BENTceCONJOINE
DbkROSS LITTLEboEDbq THUMB SIDEbjHINGEDbp SPREAD THUMB SIDEbjLITTLEbjRAISED KNUCKLESbkINGbn BENTboC
ONJOINEDbjSTRAIGHT THUMB BENTbjTHUMBbo ANGLEDbv OUTbpBENTbpCIRCLEDbqONJOINED HINGEDbqUPPEDbpHINGEDb
qOOKEDbjUP SPREAD THUMB FORWARDbcRAISED KNUCKLEbdING LITTLEbcTHUMB ANGLED IN MIDDLE UPbpOUT MIDDL
E UPbiCIRCLEboD MIDDLE UPbjUPPED MIDDLE UPbkRLICUEblVE THUMB INSIDEbuUNDERbiFORWARD INDEX BENTbwSTR
AIGHTbiHOOKbmED MIDDLE HINGEDbwUPbiSIDEbm BOTH BENTbnINDEX BENTbtHINGEbnTHUMB BENTbtCONJOINEDbtDIAG
ONALbcUP MIDDLE HINGEDbs THUMB CONJOINEDbzSIDEwLITTLE BENTbdDOWNbh OTHERS CIRCLEDbiRIPPLE CURVEDbpS
TRAIGHTbdINDEXbi THUMBbdRAISED KNUCKLEbdTHUMBbeOUCHES THUMBbdUPwMIDDLE BENT OVER INDEXbdDOWNbdLITTL
EbdRAISED KNUCKLEbeING LITTLEbdTHUMB ANGLED INDEX UPbqOUT INDEX CROSSEDcaUPbjCIRCLED INDEX HINGEDbx
UPbkUPPED INDEX UPbjHOOKED INDEX UPbjLITTLEbdUPbf THUMB SIDEwRING DOWNbbINDEXbbLITTLEbbMIDDLEbh CON
JOINEDbiRAISED KNUCKLESbbRAISED KNUCKLEbbTHUMBbbUPwTHUMBbb BETWEEN INDEX MIDDLEbw STRAIGHTbkMIDDL
E RINGbkRING LITTLEbcFORWARDbcHEELbcOVER FOUR RAISED KNUCKLESbhTWO FINGERSbcSIDE BENTbhCONJOINEDbhD
IAGONALbcUNDER FOUR FINGERSbiINDEX BENTbiLITTLE UPbiTHREE FINGERSbjWO FINGERSsLATv BETWEEN PALM FAC
INGSwFIVE FINGERS SPREADbp BENTbqFOUR BENTbqHINGEDbw NO THUMBbxTHUMB SIDEbqTHUMB FORWARDxOUR FINGER
Sbi BENTbjCONJOINEDbs SPLITbjHINGEDwHEELba FIVE FINGERS SPREADbu BENTbvFOUR BENTbbTHUMB SIDEwSPLI
T CENTREbi THUMB SIDEbt BENTbcINDEX THUMB SIDEbcLITTLEwTHUMB BENTbcFORWARDbcSIDErHINGEw FIVE FINGER
S SPREAD OPENyOUR FINGERS CONJOINEDxINDEXbc HINGEDbdMIDDLE LITTLEbkRINGbo CONJOINEDbdRING LITTLEbdT
HUMBbi LARGEbjOPENbjSIDEbkMALLxLITTLEbd INDEXbj THUMBbeTHUMBxMIDDLEbd RING LITTLExNO THUMBxOPENbb N
O THUMBbcTHUMB FORWARDbiSIDExRINGbb DOWN INDEX THUMB HOOK MIDDLExSMALLxTHUMB BETWEEN MIDDLE RINGbdS
IDEbh TOUCHING INDEXsOOKv CURLICUEwINDEX RING LITTLE INboOUTboUNDERwMIDDLE RING LITTLE CONJOINEDb
y INbzOUTbdTHUMBwRING THUMBrOVALv FIVE FINGERS SPREADwINDEXwLITTLE UPwNO THUMBwRING LITTLEwTHUMB FO
RWARDbcSIDEnEADq MOVEMENT CIRCLEz-FLOORPLANE CURVEblSTRAIGHTbaWALLPLANE CURVEbkSTRAIGHTbkTILTrRIMmL
IMB COMBINATIONrLENGTH-1y2y3y4y5y6y7oP LOWER OVER UPPERqUPPER OVER LOWERpS PRESSED TOGETHERnOCATIO
N DEPTHvHEAD NECKxIGHTvLIMBS DIGITSvTORSOvWIDTHu-FLOORPLANE SPACEvWALLPLANE SPACEmMOUTH CLOSED CONT
ACTzFORWARDzNEUTRALtORNERSsFROWNx OPENyWRINKLEDsKISSw FORWARDxWRINKLEDsOPEN CIRCLExFORWARDxOVALbb W
RINKLEDbcYAWNxRECTANGLEbg WRINKLEDbhYAWNxWRINKLEDsSMILEx OPENyWRINKLEDsTENSEx FORWARDySUCKEDsWRINKL
ES DOUBLEbbSINGLEoVEMENT-DIAGONAL AWAY LARGEboSTbjMEDIUMbjSMALLbeBETWEEN AWAY LARGEbwSTbrMEDIUMbrSM
ALLbmTOWARDS LARGEbzSTbuMEDIUMbuSMALLbeTOWARDS LARGEbrSTbmMEDIUMbmSMALLvFLOORPLANE ARM CIRCLE HITTI
NG WALL LARGE DOUBLEckSINGLEceMEDIUM DOUBLEclSINGLEceSMALL DOUBLEckSINGLEbgBENDbhOX LARGEbkMEDIUMbk
SMALLbgCHECKbhORNER LARGEbnMEDIUMbnSMALLbhROSSbhURVE COMBINEDbmHITTING CEILING LARGEccSMALLbuFLOO
R LARGEcaSMALLbmLARGEbrSTbmMEDIUMbmSMALLbgDOUBLE ALTERNATINGby WRIST FLEXbnSTRAIGHTbnWRIST FLEXbgFI
NGER CIRCLES HITTING WALL DOUBLEciSINGLEboONTACTbgHUMP HITTING CEILING LARGE DOUBLEchTRIPLEcbSMAL
L DOUBLEchTRIPLEbtFLOOR LARGE DOUBLEbzSMALL DOUBLEbzTRIPLE LARGE TRIPLEcgSMALL TRIPLEblSMALLbgJAWbg
LOOP HITTING CEILING LARGE DOUBLEchSINGLEcbSMALL DOUBLEchSINGLEbtFLOOR LARGE DOUBLEcfSINGLEbzSMAL
L DOUBLEcfSINGLEblSMALLbgPEAKS LARGEbmMEDIUMbmSMALLbgSHAKING PARALLELbhINGLE STRAIGHT LARGEcbSTbwME
DIUMbwSMALLbnWRIST FLEXbgTRIPLE ALTERNATING MOVEMENTbzWRIST FLEXbnSTRAIGHT MOVEMENTbnWRIST FLEXbgWA
VE HITTING CEILING LARGEcbSMALLbtFLOOR LARGEbzSMALLblLARGEblSMALLbmNAKEbhRIST CIRCLE HITTING WALL D
OUBLEcgSINGLEbgZIGZAG LARGEbnMEDIUMbnSMALLvHINGE DOWN SEQUENTIALbbSIDE TO SIDE SCISSORSbbUP DOWN AL
TERNATING LARGEbvSMALLbjLARGEbjSMALLbeSEQUENTIALvWALLPLANE ARM CIRCLE MEDIUM DOUBLEbxSINGLEbqSMAL
L DOUBLEbwSINGLEbfBEND LARGEbkMEDIUMbkSMALLbgOX LARGEbjMEDIUMbjSMALLbfCHECK LARGEblMEDIUMblSMALLbgO
RNER LARGEbmMEDIUMbmROTATIONbmSMALLbgROSSbgURVE HALF-CIRCLE LARGEccSTbxMEDIUMbxSMALLbmITTING CHESTb
tFRONT WALLblQUARTER LARGEbySTbtMEDIUMbtSMALLblTHEN STRAIGHTbnREE-QUARTER CIRCLE MEDIUMcgSMALLbkD C
ROSS MEDIUMbsSMALLbfDOUBLE ALTERNATINGbx WRIST FLEXbmSTRAIGHTbmWRIST FLEXbfFINGER CIRCLES DOUBLEbuS
INGLEbnONTACTbfHUMP HITTING CHESTbsFRONT WALLbkLARGEbkMEDIUMbkSMALLbfJAWbfLOOP HITTING CHESTbsFRON
T WALLbkLARGEbkMEDIUMbkSMALLbp DOUBLEbfPEAKS LARGEblMEDIUMblSMALLbfSHAKINGbgINGLE STRAIGHT LARGEcaS
TbvMEDIUMbvSMALLbmWRIST FLEXbfTRIPLE ALTERNATINGbx WRIST FLEXbmSTRAIGHT MOVEMENTbmWRIST FLEXbfWAV
E CURVE DOUBLE LARGEbxMEDIUMbxSMALLbqTRIPLE LARGEbxMEDIUMbxSMALLbkDIAGONAL PATH LARGEbyMEDIUMbySMAL
LbkHITTING CHESTbsFRONT WALLbgRIST CIRCLE FRONT DOUBLEbySINGLEbfZIGZAG LARGEbmMEDIUMbmSMALLmNECKnOS
E CONTACTrNEUTRALrWIGGLESsRINKLESmPARENTHESISmROTATION MODIFIER-10bf1bf2bf3bf4bf5bf6be2be3be4be5be6
be7be8be9u-FLOORPLANE ALTERNATINGbr HITTING CEILINGcaFLOORbgDOUBLEbm HITTING CEILINGbvFLOORbgSINGLE
bm HITTING CEILINGbvFLOORvWALLPLANE ALTERNATEbnING HITTING CHESTbzFRONT WALLbfDOUBLEbl HITTING CHES
TbuFRONT WALLbfSINGLEbl HITTING CHESTbuFRONT WALLnUB BETWEENqMULTIPLEqSINGLEmSEMICOLONnHOULDER HI
P POSITIONSzSPINEvTILTING FROM WAISTnQUEEZE FLICK ALTERNATINGuLARGE MULTIPLEbaSINGLEuSEQUENTIALvMAL
L MULTIPLEbaSINGLEnTRIKE BETWEENtMULTIPLEtSINGLEnURFACE BETWEENuSYMBOLSmTEETHr BITE LIPSsMOVEMENTsO
N LIPSz MOVEMENTvTONGUEbb MOVEMENToNSE CHEEKS HIGHzLOWzMIDDLEnONGUE CENTRE INSIDE MOUTHbaSTICKING O
UTtINSIDE MOUTH RELAXEDtLICKING LIPStMOVES AGAINST CHEEKtSTICKING OUT FARtTIP BETWEEN LIPSxTOUCHIN
G INSIDE MOUTHoRSO-FLOORPLANE TWISTINGsWALLPLANE CURVED BENDbcSTRAIGHT STRETCHoUCH BETWEENsMULTIPLE
sSINGLEnRAVEL-FLOORPLANE ROTATION-FLOORPLANE ALTERNATINGbyDOUBLEbySINGLEbnWALLPLANE ALTERNATINGbxDO
UBLEbxSINGLEbeSHAKINGtWALLPLANE ARM SPIRAL DOUBLEboSINGLEboTRIPLEbdROTATION-FLOORPLANE ALTERNATINGb
xDOUBLEbxSINGLEbmWALLPLANE ALTERNATINGbwDOUBLEbwSINGLEbdSHAKINGmUPPER BODY TILTING FROM HIP JOINTSm
WALLPLANE SHOULDER HIP MOVEcLHOUETTE OF JAPANcMILAR ABOVE GREATER-THAN ABOVE EQUALS SIGNoLESS-THA
N ABOVE EQUALS SIGNiMINUS SIMILARiOR GREATER-THANlLESS-THANcNE WAVEdGLE CHARACTER INTRODUCERhGRAPHI
C CHARACTER INTRODUCERhHIGH-REVERSED-9 QUOTATION MARKhLEFT-POINTING ANGLE QUOTATION MARKiOW-9 QUOTA
TION MARKhRIGHT-POINTING ANGLE QUOTATION MARKhSHIFT THREEoWOg-SHIFT-2n3dHALA ARCHAIC DIGIT EIGHTwFI
VExOURwNINEwONEwSEVENxIXwTHREExWOqNUMBER EIGHTYxFIFTYyORTYxNINETYxONE HUNDREDbbTHOUSANDxSEVENTYyIXT
YxTENyHIRTYyWENTYiLETTER AAYANNAqEEYANNArYANNAqIYANNAqLPAPRAANA BAYANNAbaCAYANNAbaDAYANNAbbDAYANNAb
aGAYANNAbaJAYANNAbaKAYANNAbaPAYANNAbaTAYANNAbbTAYANNAqMBA BAYANNAqUYANNAqYANNApDANTAJA LAYANNAxNAYA
NNAxSAYANNApEEYANNAqYANNApFAYANNApHAYANNApIIYANNAqLUUYANNAsYANNAqRUUYANNAsYANNAqYANNApKANTAJA NAASI
KYAYApMAHAAPRAANA BAYANNAbbCAYANNAbbDAYANNAbcDAYANNAbbGAYANNAbbJAYANNAbbKAYANNAbbPAYANNAbbTAYANNAbc
TAYANNArYANNAqUURDHAJA LAYANNAzNAYANNAzSAYANNApOOYANNAqYANNApRAYANNApSANYAKA DAYANNAyDAYANNAxGAYANN
AxJAYANNApTAALUJA NAASIKYAYAxSANYOOGA NAAKSIKYAYAzYANNApUUYANNAqYANNApVAYANNApYAYANNAjITH DIGIT EIG
HTtFIVEuOURtNINEtONEtSEVENuIXtTHREEuWOtZEROiPUNCTUATION KUNDDALIYAiSIGN AL-LAKUNAoNUSVARAYAnCANDRAB
INDUnVISARGAYAiVOWEL SIGN AELA-PILLAtDIGA AEDA-PILLAyGAETTA-PILLAbaYANUKITTAyIS-PILLAyKOMBUVAyPAA-P
ILLAtGAETTA-PILLAvYANUKITTAtKETTI AEDA-PILLAzIS-PILLAzPAA-PILLAuOMBU DEKAyVAba HAA AELA-PILLAbfDIG
A AELA-PILLAbfGAYANUKITTAcX PETALLED BLACK AND WHITE FLORETTEfOINTED BLACK STARmPINWHEEL STARmSTA
R WITH MIDDLE DOTd-PER-EM SPACEdTEEN POINTED ASTERISKbKATEBOARDcI AND SKI BOOTdERcULLf AND CROSSBON
ESdNKbLANTED EQUAL TO OR GREATER-THANbg WITH DOT INSIDEuLESS-THANbd WITH DOT INSIDEiNORTH ARROW WIT
H HOOKED HEADbbRIZONTAL TAILdVONIC ASTERISKcEDdEPING ACCOMMODATIONjFACEjSYMBOLfY FACEdUTH OR SPYcIC
E OF PIZZAdGHTLY FROWNING FACEjSMILING FACEcOPEeING LARGE ANDoORdT MACHINEeHbMALL AIRPLANEhMPERSAND
hSTERISKgBLUE DIAMONDgCOLONiMMAkERCIAL ATiNTAINS AS MEMBERpWITH OVERBARuVERTICAL BAR AT END OF HORI
ZONTAL STROKEgDOLLAR SIGNgELEMENT OFq WITH OVERBARwVERTICAL BAR AT END OF HORIZONTAL STROKEhM DASHh
QUALS SIGNhXCLAMATION MARKgFULL STOPgGREATER-THAN SIGNgHYPHEN-MINUSgIDEOGRAPHIC COMMAgLEFT CURLY BR
ACKETlPARENTHESISlTORTOISE SHELL BRACKETiSS-THAN SIGNgNUMBER SIGNgORANGE DIAMONDgPERCENT SIGNhLUS S
IGNgQUESTION MARKgREVERSE SOLIDUShIGHT CURLY BRACKETmPARENTHESISmTORTOISE SHELL BRACKEThOMAN NUMERA
L EIGHTvLEVENuFIFTYwVEy HUNDREDvOURuNINEuONEx HUNDREDyTHOUSANDuSEVENvIXuTENvHREEvWELVEwOgSEMICOLONg
TILDEhWO DOTS OVER ONE DOT PUNCTUATIONgVEE WITH UNDERBARfER THANm OR EQUAL TOdSH PRODUCTcILEeING CA
T FACE WITH HEART-SHAPED EYESwOPEN MOUTHiFACE WITH HALOtEART-SHAPED EYEStORNSsOPEN MOUTHbc AND COL
D SWEATbhSMILING EYESbhTIGHTLY-CLOSED EYESsSMILING EYESbe AND HAND COVERING MOUTHbjTHREE HEARTStUNG
LASSESsTEARdRKING FACEcOKING SYMBOLbNAILdKEcEEZING FACEcOW CAPPED MOUNTAINeBOARDEReFLAKEeMANh WITHO
UT SNOWbOcCCER BALLdKScFT HYPHENfICE CREAMfSHELL FLOPPY DISKeBALLeWARE-FUNCTION SYMBOLcGDIAN COMBIN
ING CURVE ABOVEyBELOWsDOT ABOVEwBELOWsHOOK ABOVExBELOWsLONG HOOK BELOWsRESH BELOWsSTROKE BELOWsTW
O DOTS ABOVEbbBELOWiINDEPENDENT SHINiLETTER ALEPHqYINpBETHpFETHpGIMELpHErTHpKAPHpLAMEDHqESHpMEMpNUN
pPEpRESH-AYINpSADHErMEKHqHINpTAWpWAWpYODHpZAYINiNUMBER ONEs HUNDREDpTENqWENTYiPUNCTUATION CIRCLE WI
TH DOTuHALF CIRCLE WITH DOTuTWO CIRCLES WITH DOTSyVERTICAL BARSbl WITH DOTScHcLID QUILT SQUARE ORNA
MENTbb IN BLACK SQUAREfUSh WITH OVERBARcM SIGNcON WITH RIGHTWARDS ARROW ABOVEcRA SOMPENG DIGIT EIGH
TtFIVEuOURtNINEtONEtSEVENuIXtTHREEuWOtZEROnLETTER AHuBAHuCAHuDAHuEEHvHuGAHuHAHuIHuJAHuKAHuLAHuMAEwH
uNAHvGAHvYAHuOHuPAHuRAHuSAHuTAHuUHuVAHuYAHcScUND RECORDING COPYRIGHTdTH EAST ARROWq AND SOUTH WES
T ARROWrCROSSING NORTH EAST ARROWrTO CORNERrWITH HOOKlBLACK ARROWlDOUBLE ARROWlPOINTING BUDuLEAFuVI
NE LEAFlSANS-SERIF ARROWlTRIANGLE-HEADED ARROWbg TO BARlWHITE ARROWgWEST ARROWq AND NORTH WEST ARRO
WrWITH HOOKlBLACK ARROWlDOUBLE ARROWlPOINTING BUDuLEAFuVINE LEAFlSANS-SERIF ARROWlTRIANGLE-HEADED A
RROWbg TO BARlWHITE ARROWcYOMBO CLUSTER-INITIAL LETTER LAbfRAbfSAbgHAiFINAL CONSONANT SIGN -AbdBbdD
bdGbdKbdLbdMbdNbeGbdRbdSbeHiGEMINATION MARKiHEAD MARK WITH MOON AND SUNbj AND FLAMEboTRIPLE FLAMEiL
ETTER -ApApBAqHApCAqHApDAqDArHAqHAqZApGAqHApHApJAqHApKAqHAqSSApLApMApNAqGAqNAqYApPAqHApRApSAqHAqSAp
TAqHAqSArHAqTArHApVApYApZAqHAiMARK DOUBLE SHADnPLUTAnSHADnTSHEGiSIGN ANUSVARAnJIHVAMULIYAnUPADHMANI
YAnVISARGAjUBJOINERiTERMINAL MARK-1w2iVOWEL LENGTH MARKoSIGN AIuUtEtItOuEtUuEtVOCALIC LbbRbPcAdCEdG
HETTIdRKLEhSgING HEARTcEAK-NO-EVIL MONKEYfERh WITH CANCELLATION STROKEnONE SOUND WAVEnTHREE SOUND W
AVESfING HEAD IN SILHOUETTEdECH BALLOONeDBOATdSMILO SIGNcHERICAL ANGLEp OPENING LEFTyUPcIDERg WEBdR
AL CALENDAR PADhNOTE PADhSHELLcLASHING SWEAT SYMBOLcONGEdOL OF THREADeNdRTS MEDALdUTING WHALEbQUAR
E A OVER MiARUiMiNPEAiPAATOiRUHUAiUhBAARERUjRiEETAiIRUiORUTOiQiUSSYERUhC OVER KGiALjPiCiDiMj CUBEDk
SQUAREDiOjRPORATIONiUPhDAjASUiBiESIiJiLiMj CUBEDkSQUAREDiORUhEEKAAiRA NAME HEISEIqMEIZIqREIWAqSYOUW
AqTAISYOUjGiSUKUUDOiVhFMiOOTjUR CORNERShGALjNMAjRONiBiHZiIGAjNIIjRUDAAiPAiURAMUnTONiYhHAjITUiEKUTAA
RUjRUTUiGiIRAGANA HOKAiONjONkRUiPjAiUARADDOjIITOjRANiZhIMAGE OFp OR EQUAL TOtNOT EQUAL TOiNjINGUjTI
iUhK OHMiAjIRIjRATTOkORIIiBiCALiEESUiGiHZiIROlGURAMUlMEETORUlWATTOiKiLiMj CAPITALlUBEDkSQUAREDiOOPO
jRUNAiPAiTiUROONEkUZEIROiViWiYURIIhLEFT OPEN BOX OPERATORiMiNiOGjZENGEiXhM CUBEDjOHMkVER Sp SQUARED
jSQUAREDiAjHHAjIKUROkRUjNSYONjRUKUiBj SMALLiEETORUjGAlTONiGiHZiIKURONjLjRIlBAARUiLiMj CUBEDkSQUARED
iOLiPAiSiU AkFkGkLkMkSkVkWiVj MEGAiWj MEGAhNAjNOiFiMiOTTOiSiViWhONSUiOMUiRIGINAL OFs OR EQUAL TOwNO
T EQUAL TOiVhPAj AMPSjASENTOkTUiCiEEZIjNIHIkSUjSOiFiHiIASUTORUjKOkURUiMiOINTOjNDOjSITION INDICATORi
PMiRiSiViWhRADk OVER Sr SQUAREDiEMUjNTOGENiIGHT OPEN BOX OPERATORjRAjTTORUiOOTiUPIIjUBURUhSAIKURUjN
TIIMUiENTIlOiIRINGUiRiVhTARGETiHZiONhUONhV OVER MhWATTOiBiITH BOTTOM HALF BLACKmCONTOURED OUTLINEmD
IAGONAL CROSSHATCH FILLmHORIZONTAL FILLmLEFT HALF BLACKnOWER LEFT DIAGONAL HALF BLACKsRIGHT DIAGONA
L HALF BLACKmORTHOGONAL CROSSHATCH FILLmRIGHT HALF BLACKmTOP HALF BLACKmUPPER LEFT DIAGONAL HALF BL
ACKxTO LOWER RIGHT FILLsRIGHT DIAGONAL HALF BLACKyTO LOWER LEFT FILLmVERTICAL FILLhYAADOkRUiUANgD A
STERISKiCJK UNIFIED IDEOGRAPH-4E00bh9bg2Dbg8CbgA4be518Dbf21Dbg4Dbg72bf3CCbgF3bf408bg39bf5B6bf8F0bf9
1Abg29bfB57bfDE6bfF8Cbe624Bbg53bg95bf307bg55bf599bgB0bf620bf708bh9bfE80bfF14be7121bf51Fbg33bf981bfA
7AbfD42be89E3bfCA9bfD70be904Abf14DjLjOOLiDOT OPERATORiEIGHT KiFALLING DIAGONAL SLASHjIVE POINT ONEj
OUR DOT PUNCTUATIONnKjREEiHCjDRjI-RESjViIDiKATAKANA DErKOKOrSAjEYiLATIN CAPITAL LETTER AbdBbdCbdDbd
EbdFbdGbdHbdIbdJbdKbdLbdMbdNbdObdPbdQbdRbdSbdTbdUbdVbdWbdXbdYbdZoSMALL LETTER DjOGICAL ANDqORkSSLES
SiMINUSjViNEWjGiOKjNE HUNDRED TWENTY PiPLUSjPViRISING DIAGONAL SLASHiSALTIREjDjECOND SCREENkVEN POI
NT ONEjHVjIXTY PjMALL CIRCLEjOSjQUAREjSiTHREE DjIMESjWENTY-TWO POINT TWOkO KiUHDjP WITH EXCLAMATIO
N MARKiVODjSiWCeT BLACK RIGHTWARDS ARROWdIDbS2c3cAbTcADIUMdFF OF AESCULAPIUSjHERMESdMPED ENVELOPEdN
DING PERSONdR AND CRESCENTfEQUALSfOF DAVIDgPERATORfWITH LEFT HALF BLACKkRIGHT HALF BLACKeT OF GUARD
ED AREAjHEADINGjPROTECTED AREAjSELECTED AREAkTRINGjTEXTdTIONeUE OF LIBERTYcEAM LOCOMOTIVEfING BOWLd
NOGRAPHIC FULL STOPdTHOSCOPEcICK FIGUREm LEANING LEFTvRIGHTnWITH ARMS RAISEDsDRESScOCK CHARTdPWATCH
cRAIGHT RULERiNESSeWBERRYdESS OUTLINED WHITE STARdICTLY EQUIVALENT TOeNG TERMINATORcScUDIO MICROPHO
NEdFFED FLATBREADdPAcXbUBdSCRIPT EIGHTlQUALS SIGNkFIVElOURkLEFT PARENTHESISkMINUSkNINEkONEkPLUS SIG
NkRIGHT PARENTHESISkSEVENlIXkTHREElWOkZEROeET ABOVE RIGHTWARDS ARROWnSUBSETpPERSEThOFj ABOVE ALMOS
T EQUAL TOqEQUALS SIGNqNOT EQUAL TOqTILDE OPERATORkOR EQUAL TOv WITH DOT ABOVEkWITH NOT EQUAL TOhWI
TH DOTmMULTIPLICATION SIGN BELOWmPLUS SIGN BELOWeTITUTEcCCEEDSi ABOVE ALMOST EQUAL TOpEQUALS SIGNpN
OT ALMOST EQUAL TOtEQUAL TOpSINGLE-LINE EQUALS SIGNbbNOT EQUAL TOjBUT NOT EQUIVALENT TOjOR EQUAL TO
pIVALENT TOjUNDER RELATIONcMMATION BOTTOMkTOPkWITH INTEGRALcNd BEHIND CLOUDeWITH FACEdDANESE AVAGRA
HAkCONSONANT SIGN PAMINGKALbbNYAKRAbdIKUbbSANGAN MAbiWAkDIGIT EIGHTqFIVErOURqNINEqONEqSEVENrIXqTHRE
ErWOqZEROkLETTER AsErBAsHArCArDArEsUrFAsINAL KxMrGArHArIrJArKAsHArLAsEUrMArNAsGAsYArOrPArQArRAsEUrS
AsYArTArUrVArWArXArYArZAkPUNCTUATION BINDU BA SATANGAbcCAKRAbcDA SATANGAbcKA SATANGAbcLEU SATANGAbc
PANGLONGbdURNAMAbcSURYAkSIGN PAMAAEHrNGLAYARtWISADsYECEKpVIRAMAkVOWEL SIGN PAMEPETxNAELAENGyEULEUNG
yGHULUyOLONGyYUKUdFLOWERdRISEh OVER MOUNTAINSdSET OVER BUILDINGScPERHEROfSCRIPT EIGHTnQUALS SIGNmFI
VEnOURmLATIN SMALL LETTER IbfNnEFT PARENTHESISmMINUSmNINEmONEmPLUS SIGNmRIGHT PARENTHESISmSEVENnIXm
THREEnWOmZEROgET ABOVE LEFTWARDS ARROWpSUBSETrPERSETjBESIDE AND JOINED BY DASH WITH SUBSETqSUBSETjO
Fl ABOVE ALMOST EQUAL TOsEQUALS SIGNsNOT EQUAL TOsTILDE OPERATORmOR EQUAL TOx WITH DOT ABOVEmWITH N
OT EQUAL TOjPRECEDING SOLIDUSjWITH DOToMULTIPLICATION SIGN BELOWoPLUS SIGN BELOWfVILLAINcRFACE INTE
GRALeERcSHIdPENSION RAILWAYbWANdSH AMPERSAND ORNAMENTcIMMERcUNG DASHbYLOTI NAGRI LETTER AuBHOvOuCHO
vOuDDHOwOvHOvOuEuGHOvOuHOuIuJHOvOuKHOvOuLOuMOuNOuOuPHOvOuROvROuSOuTHOvOvTHOwOuUnPOETRY MARK-1z2z3z4
nSIGN ALTERNATE HASANTAtNUSVARAsDVISVARAsHASANTAnVOWEL SIGN AyEyIyOOyUcMBOL FOR ACKNOWLEDGElBACKSPA
CEmELLlCANCELnRRIAGE RETURNlDATA LINK ESCAPEmELETEr FORM TWOnVICE CONTROL FOURbaONEbaTHREEbbWOlEN
D OF MEDIUMsTEXTtRANSMISSIONbe BLOCKnQUIRYmSCAPElFILE SEPARATORmORM FEEDlGROUP SEPARATORlHORIZONTA
L TABULATIONlLINE FEEDlMARKS CHAPTERlNEGATIVE ACKNOWLEDGEnWLINEmULLlRECORD SEPARATORlSAMARITAN SOUR
CEmHIFT INrOUTmPACEmTART OF HEADINGuTEXTmUBSTITUTEv FORM TWOmYNCHRONOUS IDLElTYPE A ELECTRONICSlUNI
T SEPARATORlVERTICAL TABULATIONdMETRYcNdAGOGUEdCHRONOUS IDLEcRIAC ABBREVIATION MARKhBARREKHhCOLON S
KEWED LEFTuRIGHTjNTRACTIONhDOTTED ZLAMA ANGULARuHORIZONTALhEND OF PARAGRAPHiSASA ABOVEnBELOWhFEMINI
NE DOThHARKLEAN ASTERISCUSqMETOBELUSqOBELUSiBASA ABOVEnBELOWm-ESASA DOTTEDiORIZONTAL COLONhLETTER A
LAPHoBETHoDALATHpOTLESS DALATH RISHoEoFINAL SEMKATHoGAMALt GARSHUNIoHEqTHoKAPHoLAMADHoMALAYALAM BHA
yJAyLLAbaLAyNGAzNAbaNAzYAyRAySSAyTTApIMoNUNoPEqRSIAN BHETHwDHALATHwGHAMALoQAPHoREVERSED PEpISHoSADH
EpEMKATHpHINpOGDIAN FEwKHAPHwZHAINpUPERSCRIPT ALAPHoTAWpETHs GARSHUNIoWAWoYUDHs HEoZAINhMUSIChOBLIQ
UE LINE ABOVEuBELOWhPTHAHA ABOVEoBELOWoDOTTEDhQUSHSHAYAhRBASA ABOVEnBELOWiUKKAKHAiWAHAhSUBLINEAR CO
LONw SKEWED LEFTbeRIGHTrFULL STOPjPRALINEAR COLONy SKEWED LEFTtFULL STOPhTHREE DOTS ABOVEsBELOWiW
O VERTICAL DOTS ABOVEzBELOWhZQAPHA ABOVEoBELOWoDOTTEDeNGE"

end TermAudit.CharacterName
