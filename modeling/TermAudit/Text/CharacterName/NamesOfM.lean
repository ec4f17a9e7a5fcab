/-!
# `TermAudit.Text.CharacterName.NamesOfM`: names of characters, first letters `M`

The names come in order. Before each one stands, as a number with the digits `a` to `z`, how many
code points it has in common with the one before. Line breaks count for nothing.
-/

set_option autoImplicit false

namespace TermAudit.CharacterName

/-- The names that begin with `M`. -/
def namesOfM : String :=
  "aMACRONcGEdIC WANDdNETcHAJANI ABBREVIATION SIGNjLETTER AqBArHAqCArHAqDArDAsHArHAqEqGArHAqHAqIqJA
rHAqKArHAqLAqMAqNArNArYAqOqPArHAqRArRAqSAqTArHArTAsHAqUqVAkIGATURE SHRIjSECTION MARKkIGN NUKTAdJON
G TILE AUTUMNnBACKpMBOOnCHRYSANTHEMUMnEAST WINDoIGHT OF BAMBOOSwCHARACTERSxIRCLESnFIVE OF BAMBOOSvC
HARACTERSwIRCLESoOUR OF BAMBOOSvCHARACTERSwIRCLESnGREEN DRAGONnJOKERnNINE OF BAMBOOSvCHARACTERSwIRC
LESoORTH WINDnONE OF BAMBOOSuCHARACTERSvIRCLESoRCHIDnPLUMnRED DRAGONnSEVEN OF BAMBOOSwCHARACTERSxIR
CLESoIX OF BAMBOOSuCHARACTERSvIRCLESoOUTH WINDoPRINGoUMMERnTHREE OF BAMBOOSwCHARACTERSxIRCLESoWO O
F BAMBOOSuCHARACTERSvIRCLESnWEST WINDoHITE DRAGONoINTERcKASAR ANGKAiEND OF SECTIONiLETTER ApBApCApD
ApGApJApKApLApMApNAqGAqYApPApRApSApTApVApYAiPASSIMBANGiVOWEL SIGN EtItOtUcLAYALAM AU LENGTH MARKkDA
TE MARKlIGIT EIGHTqFIVErOURqNINEqONEqSEVENrIXqTHREErWOqZEROkFRACTION ONE EIGHTHxFIFTHyORTIETHxHALFx
ONE-HUNDRED-AND-SIXTIETHxQUARTERxSIXTEENTHxTENTHyWENTIETHtTHREE EIGHTIETHSzQUARTERSzSIXTEENTHSzTWEN
TIETHSkLETTER AsAsIsRCHAIC IIsUrBAsHArCAsHAtILLU KyLzLbaLyMyNzNyRRyYrDAsDAtHAsHAsOT REPHrEsErGAsHAr
HArIsIrJAsHArKAsHArLAsLAtLArMArNAsGAsNAtNAsYArOsOrPAsHArRAsRArSAsHAsSArTAsHAsTAtHAtTArUsUrVAsEDIC A
NUSVARAsOCALIC LbaLzRbaRrYAkNUMBER ONE HUNDREDvTHOUSANDrTENkSIGN ANUSVARAqVAGRAHApCANDRABINDUqIRCUL
AR VIRAMAqOMBINING ANUSVARA ABOVEpPARApVERTICAL BAR VIRAMAqIRAMArSARGAkVOWEL SIGN AAwIwUvEwEvIwIvOw
OvUwUvVOCALIC LbeLbdRbeRdE AND FEMALE SIGNfSIGNfWITH STROKE AND MALE AND FEMALE SIGNrSIGNdTESE CROS
ScMMOTHcNd AND WOMAN HOLDING HANDSeDANCINGeIN BUSINESS SUIT LEVITATINGhTUXEDOeWITH GUA PI MAOjTURBA
NdAT SIGNdDAIC AFFRICATION MARKiGEMINATION MARKiLETTER ABqDqGqHqINqKrSAqLqMqNqPqQqRqSrHrZqTrTqZpDUS
HENNApHALQApINqTpKADpUSHENNAiPUNCTUATIONiVOCALIZATION MARKdGOdICHAEAN ABBREVIATION MARK ABOVEbdBELO
WlLETTER AAYINtLEPHtYINsBETHtHETHsDALETHtHAMEDHsFEsGHIMELtIMELsHEuTHsJAYINtHAYINsKAPHtHAPHsLAMEDHsM
EMsNUNsPEsQHOPHtOPHsRESHsSADHEuMEKHtHINtSHINsTAWtETHtHAMEDHsWAWsXAPHtOPHsYODHsZAYINtHAYINlNUMBER FI
VEsONEv HUNDREDsTENtWENTYlPUNCTUATION DOTba WITHIN DOTzUBLE DOT WITHIN DOTxFLEURONxLINE FILLERxSTAR
xTWO DOTSlSIGN UDdS SHOEdTELPIECE CLOCKdUAL WHEELCHAIRcP SYMBOL FOR LIGHTHOUSEdLE LEAFcRCHEN HEAD M
ARKiLETTER -ApApBApCAqHApDAqZApGApHApJApKAqHApLApMApNAqGAqYApPAqHApRApSAqHApTAqHAqSArHApWApYApZAqHA
iMARK SHADiSIGN ANUSVARAnCANDRABINDUjUBJOINED LETTER AzBAzCAbaHAzDAbaZAzGAzHAzJAzKAbaHAzLAzMAzNAbaG
AbaYAzPAbaHAzRAzSAbaHAzTAbaHAbaSAbbHAzWAzYAzZAbaHAiVOWEL SIGN AAtEtItOtUdRIAGE SYMBOLdTIAL ARTS UNI
FORMcSARAM GONDI DIGIT EIGHTuFIVEvOURuNINEuONEuSEVENvIXuTHREEvWOuZEROoLETTER AwAwIwUvBAwHAvCAwHAvDA
wDAxHAwHAvEvGAwHAvHAvIwIvJAwHAwNYAvKAwHAwSSAvLAwLAvMAvNAwGAwNAwYAvOvPAwHAvRAvSAwHAwSAvTAwHAwRAwTAxH
AvUwUvVAvYAoRA-KARApEPHAoSIGN ANUSVARAtCANDRAtHALANTAtNUKTAtVISARGAoVIRAMApOWEL SIGN AAbaIbaUzEzIba
IzOzUbaUzVOCALIC RdCULINE ORDINAL INDICATORdK WORK SYMBOLdU MARKcTE DRINKdHEMATICAL BOLD CAPITAL Ab
bLPHAbaBbbETAbaCbbHIbaDbbELTAbbIGAMMAbaEbbPSILONbbTAbaFbaGbbAMMAbaHbaIbbOTAbaJbaKbbAPPAbaLbbAMDAbaM
bbUbaNbbUbaObbMEGAbcICRONbaPbbHIbbIbbSIbaQbaRbbHObaSbbIGMAbaTbbAUbbHETAbf SYMBOLbaUbbPSILONbaVbaWba
XbbIbaYbaZbbETAsDIGIT EIGHTyFIVEzOURyNINEyONEySEVENzIXyTHREEzWOyZEROsEPSILON SYMBOLsFRAKTUR CAPITA
L AbiBbiCbiDbiEbiFbiGbiHbiIbiJbiKbiLbiMbiNbiObiPbiQbiRbiSbiTbiUbiVbiWbiXbiYbiZbaSMALL AbgBbgCbgDbgE
bgFbgGbgHbgIbgJbgKbgLbgMbgNbgObgPbgQbgRbgSbgTbgUbgVbgWbgXbgYbgZsITALIC CAPITAL AbiLPHAbhBbiETAbhCbi
HIbhDbiELTAbhEbiPSILONbiTAbhFbhGbiAMMAbhHbhIbiOTAbhJbhKbiAPPAbhLbiAMDAbhMbiUbhNbiUbhObiMEGAbjICRONb
hPbiHIbiIbiSIbhQbhRbiHObhSbiIGMAbhTbiAUbiHETAbm SYMBOLbhUbiPSILONbhVbhWbhXbiIbhYbhZbiETAzEPSILON SY
MBOLzKAPPA SYMBOLzNABLAzPARTIAL DIFFERENTIALbaHI SYMBOLbaI SYMBOLzRHO SYMBOLzSMALL AbgLPHAbfBbgETAb
fCbgHIbfDbgELTAbfEbgPSILONbgTAbfFbgINAL SIGMAbfGbgAMMAbfHbfIbgOTAbfJbfKbgAPPAbfLbgAMDAbfMbgUbfNbgUb
fObgMEGAbhICRONbfPbgHIbgIbgSIbfQbfRbgHObfSbgIGMAbfTbgAUbgHETAbfUbgPSILONbfVbfWbfXbgIbfYbfZbgETAzTHE
TA SYMBOLsKAPPA SYMBOLsNABLAsPARTIAL DIFFERENTIALtHI SYMBOLtI SYMBOLsRHO SYMBOLsSCRIPT CAPITAL AbhB
bhCbhDbhEbhFbhGbhHbhIbhJbhKbhLbhMbhNbhObhPbhQbhRbhSbhTbhUbhVbhWbhXbhYbhZzSMALL AbfBbfCbfDbfEbfFbfGb
fHbfIbfJbfKbfLbfMbfNbfObfPbfQbfRbfSbfTbfUbfVbfWbfXbfYbfZtMALL AzLPHAyBzETAyCzHIyDzELTAzIGAMMAyEzPSI
LONzTAyFzINAL SIGMAyGzAMMAyHyIzOTAyJyKzAPPAyLzAMDAyMzUyNzUyOzMEGAbaICRONyPzHIzIzSIyQyRzHOySzIGMAyTz
AUzHETAyUzPSILONyVyWyXzIyYyZzETAsTHETA SYMBOLnDOUBLE-STRUCK CAPITAL AbjBbjDbjEbjFbjGbjIbjJbjKbjLbjM
bjObjSbjTbjUbjVbjWbjXbjYbbDIGIT EIGHTbhFIVEbiOURbhNINEbhONEbhSEVENbiIXbhTHREEbiWObhZERObbSMALL AbhB
bhCbhDbhEbhFbhGbhHbhIbhJbhKbhLbhMbhNbhObhPbhQbhRbhSbhTbhUbhVbhWbhXbhYbhZnFALLING DIAGONALoRAKTUR CA
PITAL AbdBbdDbdEbdFbdGbdJbdKbdLbdMbdNbdObdPbdQbdSbdTbdUbdVbdWbdXbdYvSMALL AbbBbbCbbDbbEbbFbbGbbHbbI
bbJbbKbbLbbMbbNbbObbPbbQbbRbbSbbTbbUbbVbbWbbXbbYbbZnITALIC CAPITAL AbdLPHAbcBbdETAbcCbdHIbcDbdELTAb
cEbdPSILONbdTAbcFbcGbdAMMAbcHbcIbdOTAbcJbcKbdAPPAbcLbdAMDAbcMbdUbcNbdUbcObdMEGAbeICRONbcPbdHIbdIbdS
IbcQbcRbdHObcSbdIGMAbcTbdAUbdHETAbh SYMBOLbcUbdPSILONbcVbcWbcXbdIbcYbcZbdETAuEPSILON SYMBOLuKAPPA S
YMBOLuNABLAuPARTIAL DIFFERENTIALvHI SYMBOLvI SYMBOLuRHO SYMBOLuSMALL AbbLPHAbaBbbETAbaCbbHIbaDbbELT
AbbOTLESS IbiJbaEbbPSILONbbTAbaFbbINAL SIGMAbaGbbAMMAbaIbbOTAbaJbaKbbAPPAbaLbbAMDAbaMbbUbaNbbUbaObb
MEGAbcICRONbaPbbHIbbIbbSIbaQbaRbbHObaSbbIGMAbaTbbAUbbHETAbaUbbPSILONbaVbaWbaXbbIbaYbaZbbETAuTHETA S
YMBOLnLEFT ANGLE BRACKETsDOUBLE ANGLE BRACKETsFLATTENED PARENTHESISsWHITE SQUARE BRACKETyTORTOISE S
HELL BRACKETnMONOSPACE CAPITAL AbfBbfCbfDbfEbfFbfGbfHbfIbfJbfKbfLbfMbfNbfObfPbfQbfRbfSbfTbfUbfVbfWb
fXbfYbfZxDIGIT EIGHTbdFIVEbeOURbdNINEbdONEbdSEVENbeIXbdTHREEbeWObdZEROxSMALL AbdBbdCbdDbdEbdFbdGbdH
bdIbdJbdKbdLbdMbdNbdObdPbdQbdRbdSbdTbdUbdVbdWbdXbdYbdZnRIGHT ANGLE BRACKETtDOUBLE ANGLE BRACKETtFLA
TTENED PARENTHESIStWHITE SQUARE BRACKETzTORTOISE SHELL BRACKETpSING DIAGONALnSANS-SERIF BOLD CAPITA
L AbmLPHAblBbmETAblCbmHIblDbmELTAblEbmPSILONbmTAblFblGbmAMMAblHblIbmOTAblJblKbmAPPAblLbmAMDAblMbmUb
lNbmUblObmMEGAbnICRONblPbmHIbmIbmSIblQblRbmHOblSbmIGMAblTbmAUbmHETAbq SYMBOLblUbmPSILONblVblWblXbmI
blYblZbmETAbdDIGIT EIGHTbjFIVEbkOURbjNINEbjONEbjSEVENbkIXbjTHREEbkWObjZERObdEPSILON SYMBOLbdITALI
C CAPITAL AbtLPHAbsBbtETAbsCbtHIbsDbtELTAbsEbtPSILONbtTAbsFbsGbtAMMAbsHbsIbtOTAbsJbsKbtAPPAbsLbtAMD
AbsMbtUbsNbtUbsObtMEGAbuICRONbsPbtHIbtIbtSIbsQbsRbtHObsSbtIGMAbsTbtAUbtHETAbx SYMBOLbsUbtPSILONbsVb
sWbsXbtIbsYbsZbtETAbkEPSILON SYMBOLbkKAPPA SYMBOLbkNABLAbkPARTIAL DIFFERENTIALblHI SYMBOLblI SYMBOL
bkRHO SYMBOLbkSMALL AbrLPHAbqBbrETAbqCbrHIbqDbrELTAbqEbrPSILONbrTAbqFbrINAL SIGMAbqGbrAMMAbqHbqIbrO
TAbqJbqKbrAPPAbqLbrAMDAbqMbrUbqNbrUbqObrMEGAbsICRONbqPbrHIbrIbrSIbqQbqRbrHObqSbrIGMAbqTbrAUbrHETAbq
UbrPSILONbqVbqWbqXbrIbqYbqZbrETAbkTHETA SYMBOLbdKAPPA SYMBOLbdNABLAbdPARTIAL DIFFERENTIALbeHI SYMBO
LbeI SYMBOLbdRHO SYMBOLbdSMALL AbkLPHAbjBbkETAbjCbkHIbjDbkELTAbjEbkPSILONbkTAbjFbkINAL SIGMAbjGbkAM
MAbjHbjIbkOTAbjJbjKbkAPPAbjLbkAMDAbjMbkUbjNbkUbjObkMEGAblICRONbjPbkHIbkIbkSIbjQbjRbkHObjSbkIGMAbjTb
kAUbkHETAbjUbkPSILONbjVbjWbjXbkIbjYbjZbkETAbdTHETA SYMBOLyCAPITAL AbgBbgCbgDbgEbgFbgGbgHbgIbgJbgKbg
LbgMbgNbgObgPbgQbgRbgSbgTbgUbgVbgWbgXbgYbgZyDIGIT EIGHTbeFIVEbfOURbeNINEbeONEbeSEVENbfIXbeTHREEbfWO
beZEROyITALIC CAPITAL AbnBbnCbnDbnEbnFbnGbnHbnIbnJbnKbnLbnMbnNbnObnPbnQbnRbnSbnTbnUbnVbnWbnXbnYbnZb
fSMALL AblBblCblDblEblFblGblHblIblJblKblLblMblNblOblPblQblRblSblTblUblVblWblXblYblZySMALL AbeBbeCbe
DbeEbeFbeGbeHbeIbeJbeKbeLbeMbeNbeObePbeQbeRbeSbeTbeUbeVbeWbeXbeYbeZoCRIPT CAPITAL AbcCbcDbcGbcJbcKb
cNbcObcPbcQbcSbcTbcUbcVbcWbcXbcYbcZuSMALL AbaBbaCbaDbaFbaHbaIbaJbaKbaLbaMbaNbaPbaQbaRbaSbaTbaUbaVba
WbaXbaYbaZcXIMIZEcYAN NUMERAL EIGHTtEENpLEVENoFIFTEENqVEpOURsTEENoNINEsTEENoONEoSEVENtTEENpIXrTEENo
TENpHIRTEENqREEpWELVEqOoZERObEASURED ANGLEo OPENING LEFTpWITH OPEN ARM ENDING IN ARROW POINTING DOW
N AND LEFTclRIGHTccLEFT AND DOWNclUPccRIGHT AND DOWNcmUPccUP AND LEFTcjRIGHTjBYjRIGHT ANGLE WITH DO
TdT ON BONEcCHANICAL ARMlLEGcDEFAIDRIN CAPITAL LETTER AbcIbcTIUbbBbbCbbDbbEbbFbbGbbHbcPbbIbbJbbKbcP
bbLbbMbbNbcGbcYbbObcEbbPbbQbbRbbSbbTbbUbbVbbWbbXbbYbcUbbZnOMMAmDIGIT EIGHTsFIVEtOURsNINEsONEv ALTER
NATE FORMsSEVENtIXsTHREEx ALTERNATE FORMtWOv ALTERNATE FORMsZEROmEXCLAMATION OHmFULL STOPmNUMBER EI
GHTEENuLEVENtFIFTEENuOURTEENtNINETEENtSEVENTEENuIXTEENtTENuHIRTEENuWELVEmSMALL LETTER AbaIbaTIUzBzC
zDzEzFzGzHbaPzIzJzKbaPzLzMzNbaGbaYzObaEzPzQzRzSzTzUzVzWzXzYbaUzZnYMBOL AIVAdIEVAL COMMAjEXCLAMATIO
N MARKjQUESTION MARKeUM BLACK CIRCLEiOLD WHITE CIRCLEhEIGHT POINTED BLACK STARnSPOKED ASTERISKhFIV
E SPOKED ASTERISKiLATTENED LEFT PARENTHESIS ORNAMENTrRIGHT PARENTHESIS ORNAMENTiOUR POINTED BLACK S
TARuPINWHEEL STARhGREEK CROSShLEFT CURLY BRACKET ORNAMENTmPARENTHESIS ORNAMENTl-POINTING ANGLE BRAC
KET ORNAMENThMATHEMATICAL SPACEhRIGHT CURLY BRACKET ORNAMENTnPARENTHESIS ORNAMENTm-POINTING ANGLE B
RACKET ORNAMENThSALTIREiHADEiIX POINTED BLACK STARlSPOKED ASTERISKiMALL WHITE CIRCLEhTHREE POINTE
D BLACK STARvPINWHEEL STARhVERTICAL BARhWHITE CIRCLEnSQUAREcETEI MAYEK AHANG KHUDAMoNJIoPUN IYEKnCH
EIKHANtEInDIGIT EIGHTtFIVEuOURtNINEtONEtSEVENuIXtTHREEuWOtZEROnLETTER ATIYAuBAvHAMuCHAwILuDDAwHAvHO
UvILuEuGHOUvOKuHUKuIv LONSUMuJHAMvILuKHOUvOKx LONSUMuLAIx LONSUMuMITx LONSUMuNAw LONSUMvGOUy LONSUM
vNAvYAuOuPAw LONSUMvHAMuRAIuSAMvHAvSAuTHOUvILx LONSUMvTAwHAuUNuWAIuYANGoUM IYEKnSYLLABLE REPETITIO
N MARKnVIRAMAoOWEL SIGN AAIbaUzNAPzUyCHEINAPyIIzNAPyNUNGyONAPySOUNAPyUNAPzUyVISARGAyYENAPnWORD REPE
TITION MARKcLONdTING FACEcMOcNDE KIKAKUI COMBINING NUMBER HUNDRED THOUSANDSbmSbfMILLIONSbfTEENSbh
N THOUSANDSbiSbgHOUSANDSoDIGIT EIGHTuFIVEvOURuNINEuONEuSEVENvIXuTHREEvWOoSYLLABLE M001 KIba2 KAba
3 KUba4 WIba5 WAba6 WUba7 MINba8 MANba9 MUNz10 BIba1 BAba2 BUba3 Iba4 Aba5 Uba6 DIba7 DAba8 DUba9 S
Iz20 SAba1 SUba2 TIba3 TAba4 TUba5 LIba6 LAba7 LUba8 JIba9 JAz30 JUba1 YIba2 YAba3 YUba4 FIba5 FAba
6 FUba7 NINba8 NANba9 NUNz40 HEEba1 HAba2 HOOba3 NGGAba4 KPEEba5 WOba6 HUANba7 MBEEba8 KOba9 WVAz5
0 PUba1 PEba2 HENba3 HINba4 LOOba5 TEba6 GBAba7 NGONba8 NYANba9 MENz60 NYONba1 WVIba2 MBAba3 JOba
4 NDOba5 KEEba6 POba7 NDOOba8 PIba9 TOz70 GBOba1 GBOOba2 MBEba3 LEba4 KPUba5 FEba6 KOOba7 VOba8 FEE
ba9 SOz80 YEba1 PEEba2 NGGUba3 HEEIba4 LEEba5 VEba6 LONG NGGEba7 HUNba8 FOba9 DEEz90 NGGIba1 TEEba
2 KPAba3 GBEEba4 MONba5 KEba6 HEba7 BEba8 NYENba9 PAy100 Eba1 FANba2 POOba3 BOOba4 TOOba5 LONG MBOO
ba6 LONG NGGOOba7 GBEba8 KPEba9 YEEz10 LONG LEba1 GAba2 KPOOba3 JEba4 WOOba5 NGGEEba6 SEba7 NENba
8 WEba9 NDEz20 NGGOba1 YOba2 MBUba3 NDIba4 GBIba5 NDUba6 WEEba7 NGGUAba8 HOOUba9 NDAz30 HANba1 INba
2 KPIba3 FOOba4 NJOOba5 INba6 SOOba7 EIba8 BOba9 WVEz40 HOba1 YOOba2 LONG MBOba3 WEIba4 VOOba5 MBIb
a6 NGGEba7 Oba8 GBUba9 NJEEz50 BEEba1 VUba2 NJAba3 LOba4 MUANba5 GIba6 NGGOOba7 JEEba8 KPOba9 NGGAA
z60 JOOba1 LONG MBEba2 SEEba3 EEba4 NYINba5 OOba6 GUEIba7 GUANba8 GUba9 NONz70 NYUNba1 RAba2 MBOOba
3 VEEba4 MBOba5 LONG JOba6 HIba7 NGUANba8 ENba9 KUAz80 DOOba1 DOba2 VIba3 LONG NGGOba4 NGENba5 VAba
6 HUba7 MBUUba8 MBEEba9 MUENz90 GEEba1 NDEEba2 NJUba3 HONba4 WUIba5 ANba6 SIAba7 FUAdORAH WITH NIN
E BRANCHESdS SYMBOLcRCURYdOITIC CURSIVE FRACTION EIGHT TWELFTHSbbLEVEN TWELFTHSbaFIVE TWELFTHSbbOU
R TWELFTHSbaNINE TWELFTHSbaONE HALFbeTWELFTHbaSEVEN TWELFTHSbbIX TWELFTHSbaTEN TWELFTHSbbHREE TWELF
THSbbWO TWELFTHSrLETTER AzRCHAIC SAyBAyDAyEyHHAyIyKAzHAyLAyMAyNAzEyOyPAyQAyRAySAzEyTAzEzOyWAyYAsOGO
GRAM IMNbaRMTrNUMBER EIGHTbd HUNDREDbl THOUSANDbeTHOUSANDbdY THOUSANDyFIFTYbd THOUSANDbaVEbc HUNDRE
Dbk THOUSANDbdTHOUSANDzORTYbd THOUSANDbaURbc HUNDREDbk THOUSANDbdTHOUSANDyNINEbc HUNDREDbk THOUSAND
bdTHOUSANDbcTY THOUSANDyONEbb HUNDREDbj THOUSANDbcTHOUSANDySEVENbd HUNDREDbl THOUSANDbeTHOUSANDbdTY
bf THOUSANDzIXbb HUNDREDbj THOUSANDbcTHOUSANDbbTYbd THOUSANDyTENbb THOUSANDzHIRTYbe THOUSANDbaREEb
d HUNDREDbl THOUSANDbeTHOUSANDzWENTYbe THOUSANDbaObb HUNDREDbj THOUSANDbcTHOUSANDjHIEROGLYPHIC LETT
ER AbdBAbf-2bdDAbdEbdHHAbdIbdKAbeHAbdLAbdMAbdNAbf-2beEbf-2bdObdPAbdQAbdRAbf-2bdSAbf-2beEbdTAbf-2beE
bf-2beObdWAbdYAwSYMBOL VIDJbh-2dPERSONcSSAGE WAITINGcTRICAL BREVEjLONG OVER SHORTtTWO SHORTSjPENTAS
EMEjSHORT OVER LONGjTETRASEMEkRISEMEkWO SHORTS JOINEDuOVER LONGeObIAO LETTER AHnRCHAIC MAuNAvGAuZZA
mBAnRImDAnDAnLHApYAnZAoHAoYIoZAmFAmGAnHAoHAmHAnHAmKAmLAnHAoYAnYAmMAnHAmNAoSALIZATIONnGAoHAnHAnNAoHA
nYAoHAmPAnLAmQAnGAmREFORMED TONE-1ba2ba4ba5ba6ba8wSHAnTEmSAnHAnSAnYImTAnEnLHApYAnONE-2r3r4r5r6r7r8n
SAoEoHAoSAnTAmVAnFAmWAmXAmYI DZHApKApNNApPApTAqSArHAqTAmZAnHAnSAoHAnZAoSApYAoYAfSIGN ASPIRATIONkCON
SONANT MODIFIER BARkREFORMED ASPIRATIONtVOICINGfTONE ABOVEkBELOWkRIGHTkTOP RIGHTfVOWEL SIGN ArArEsE
rHHrIrNsGrUqErArIrNsGrRsRqIrAsNtGrErGrIrNGrOsNGrUqNrGqOrERsYrGrOrUqROUNDED ERbaRqUrAsNtGrEIrIrNGrOG
rUqVWqWrOqYrIrUIcCR DASH SYMBOLfON US SYMBOLeO SIGNfBEfPHONEfSCOPEcDDLE DOThTHIRD WHITE RIGHT POINT
ING INDEXdLINE HORIZONTAL ELLIPSIScLITARY HELMETjMEDALdKY WAYdL SIGNcNIBUSeDISCeMIZEdUS SIGNk IN TR
IANGLElWITH COMMA ABOVEqDOT BELOWqFALLING DOTSqRISING DOTSgTILDEf-OR-PLUS SIGNdYcRRORg BALLbMSPbOBI
LE PHONEm OFFnWITH RIGHTWARDS ARROW AT LEFTcDELSeRN PENTATHLONdI ABBREVIATION SIGNfDANDAgIGIT EIGHT
lFIVEmOURlNINElONElSEVENmIXlTHREEmWOlZEROgOUBLE DANDAfLETTER AnAnInUmBAnHAmCAnHAmDAnDAoHAnHAmEmGAnH
AmHAmInImJAnHAmKAnHAmLAnLAmMAmNAnGAnNAnYAmOmPAnHAmRAmSAnHAnSAmTAnHAnTAoHAmUnUmVAnOCALIC LvLuRvRmYAf
SIGN ANUSVARAlRDHACANDRAkHUVAkVIRAMAmSARGAfVOWEL SIGN AArIrUqEqIrIqOqUrUqVOCALIC LzLyRzReFIER BREV
E WITH INVERTED BREVEjLETTER ACUTE ACCENTrLVEOLAR CLICKrPOSTROPHEqBEGIN HIGH TONEwLOW TONErILABIA
L CLICKqCAPITAL AzEyBzARRED ByCyDyEyFyGyHz WITH STROKEyIyJyKyLyMyNyOzUyPyQyRzEVERSED EbhNyTyUyVyWrE
NTRED LEFT HALF RINGyRIGHT HALF RINGrHINESE TONE YANG PINGbiQUbiRUbiSHANGbeIN PINGbhQUbhRUbhSHANGrI
RCUMFLEX ACCENTrOLONrROSS ACCENTrYRILLIC ENzHARD SIGNzSOFT SIGNqDENTAL CLICKrOT HORIZONTAL BARuSLAS
HuVERTICAL BARsUBLE APOSTROPHExPRIMEsWN ARROWHEADvTACKqEND HIGH TONEuLOW TONErXTRA-HIGH DOTTED LEFT
-STEM TONE BARbiTONE BARbbLEFT-STEM TONE BARbbTONE BARwLOW DOTTED LEFT-STEM TONE BARbhTONE BARbaLEF
T-STEM TONE BARbaTONE BARqGEORGIAN NARrLOTTAL STOPbc WITH STROKErRAVE ACCENTqHALF TRIANGULAR COLONr
IGH DOTTED LEFT-STEM TONE BARbcTONE BARvLEFT-STEM TONE BARvTONE BARqLATERAL CLICKrEFT ARROWHEADvHAL
F RINGvTACKrOW ACUTE ACCENTuCIRCUMFLEX ACCENTuDOTTED LEFT-STEM TONE BARbbTONE BARwWN ARROWHEADuGRAV
E ACCENTuINVERTED EXCLAMATION MARKuLEFT ARROWbeHEADy-STEM TONE BARuMACRONuRIGHT ARROWHEADwNGuTILDEv
ONE BARuUP ARROWHEADuVERTICAL LINEtER RIGHT CORNER ANGLEqMACRONrID DOTTED LEFT-STEM TONE BARbbTON
E BARuLEFT-STEM TONE BARuTONE BARtDLE DOUBLE ACUTE ACCENTbeGRAVE ACCENTxGRAVE ACCENTsNUS SIGNqOPE
N SHELFqPLUS SIGNrRIMEqRAISED COLONxDOWN ARROWxEXCLAMATION MARKxINVERTED EXCLAMATION MARKxUP ARROWr
ETROFLEX CLICK WITH RETROFLEX HOOKsVERSED COMMAzGLOTTAL STOPbl WITH STROKErHOTIC HOOKrIGHT ARROWHEA
DwHALF RINGwTACKqSHELFsORT EQUALS SIGNrMALL AxExINxLPHAwBx WITH HOOKxARRED OxETAxOTTOM HALF OwCx WI
TH CURLxAPITAL AAbeBbeGbf WITH HOOKbeHbeIbf WITH STROKEbfNVERTED RbeLbf WITH BELTbeNbeOEbeRbeUbeYxH
IxLOSED OMEGAbdREVERSED OPEN EwDx WITH HOOKbh AND TAILbdTAILxELTAyZH DIGRAPHxOTLESS J WITH STROKEb
r AND HOOKxZ DIGRAPHbg WITH CURLbmRETROFLEX HOOKwExNGxSHxTHxZHwFxENG DIGRAPHwGx WITH HOOKxAMMAxREE
K GAMMAbcPHIwHx WITH HOOKbdSTROKExENGba WITH HOOKwI WITH STROKExOTAwJx WITH CROSSED-TAILwKwLx WIT
H BELTbdINVERTED LAZY SbdMIDDLE TILDEbdPALATAL HOOKbdRETROFLEX HOOKbr AND BELTxEZHba WITH RETROFLE
X HOOKxIGATURE OExS DIGRAPHxZ DIGRAPHwMx WITH HOOKwN WITH LEFT HOOKbdRETROFLEX HOOKwOx WITH STROKEx
PEN EbbOwPxHIwQwRx WITH FISHHOOKbdTAILxAMS HORNxEVERSED EbfGLOTTAL STOPbfOPEN EwSx WITH CURLbdHOOKx
CHWAyRIPT GxIDEWAYS UwTx WITH PALATAL HOOKbdRETROFLEX HOOKxC DIGRAPH WITH CURLxESH DIGRAPHxHETAxO
P HALF OxS DIGRAPHbg WITH RETROFLEX HOOKxURNED AbeEbeLPHAbdHbdIbdMbe WITH LONG LEGbdOPEN EbdRbe WIT
H HOOKbkLONG LEGbs AND RETROFLEX HOOKbdVbdWbdYbe WITH BELTwUx BARyWITH LEFT HOOKxPSILONwVx WITH HOO
KbdRIGHT HOOKwWwXwYwZx WITH CURLbdRETROFLEX HOOKrTRESS AND HIGH TONEbbLOW TONErUPERSCRIPT HALF TRIA
NGULAR COLONbcTRIANGULAR COLONqTRIANGULAR COLONrURNED COMMAqUNASPIRATEDrP ARROWHEADtTACKrSqVERTICA
L LINErOICINGqYANG DEPARTING TONE MARKrIN DEPARTING TONE MARKdULO TWO SUMcNEY BAGgWITH WINGSf-MOUT
H FACEdGOLIAN BIRGAp WITH DOUBLE ORNAMENTvORNAMENTkCOLONmMMAkDIGIT EIGHTqFIVErOURqNINEqONEqSEVENrIX
qTHREErWOqZEROlOUBLE BIRGA WITH ORNAMENTkELLIPSISkFOUR DOTSlREE VARIATION SELECTOR FOURbiONEbiTHREE
bjWOlULL STOPkINVERTED BIRGAy WITH DOUBLE ORNAMENTkLETTER AsLI GALI AbbHbbNUSVARA ONEbaBALUDAbaCAba
DAbcGALGAbcMARUbbDAbaHALF UbfYAbaIbbNVERTED UBADAMAbaKAbaNGAbbNAbaPAbbHAbaSSAbaTAbbHREE BALUDAbbTAb
cHAbaUBADAMAbaVISARGA ONEbaZAbbHAsNGrBArCHAu WITH TWO DOTStIrDArEsErFArGArHAArIrJArKAsHArLAsHArMAtN
CHU ALI GALI BHAbhCAbiYAbhDDHAbiHAbhGHAbhJHAbhLHAbhNGAbhSSAbhTAbiTAbhZAbiHAyFAyIyKAyRAyZHArNArOsErP
ArQArRArSAsHAsIBE ANGwCHAwDAwEwFAwGAyAwHAyAwIxYwJAwKAwPAwRAAwSHAwTAxSAwUxEwZAxHArTAsODO ALI GALI TA
bfZHAxNGwBAwCHAwDAxZAwEwGAyAwHAAwIwJAxIAwKAwLONG VOWEL SIGNwMAwNIAwOxEwPAwQAwTAxSAwUxEwWAwYAsSArUsE
rWArYArZAsHIsRAkMANCHU COMMArFULL STOPkNIRUGUkROTATED BIRGAx WITH DOUBLE ORNAMENTbdORNAMENTkSIBE SY
LLABLE BOUNDARY MARKERlWIRL BIRGAv WITH DOUBLE ORNAMENTbbORNAMENTkTODO SOFT HYPHENlRIPLE BIRGA WIT
H ORNAMENTlURNED SWIRL BIRGA WITH DOUBLE ORNAMENTkVOWEL SEPARATORdKEYg FACEdOGRAM FOR EARTHnYANGoIN
eRAILeSTABLE SYMBOLcOD BUBBLEdN CAKEfVIEWING CEREMONYcSQUEfITOcTHER CHRISTMASdOR BOATgSCOOTERfIZE
D WHEELCHAIRfWAYcUNT FUJIfAINi BICYCLISTjCABLEWAYjRAILWAYdSEf FACEgTRAPdTHcVIE CAMERAcYAIbRO DANDAf
IGIT EIGHTkFIVElOURkNINEkONEkSEVENlIXkTHREElWOkZEROfOUBLE DANDAeLETTER AlBAlCHUlDAnIlEmAlHAInOlKEAA
EmHAImOlLAnNlMAEMmIMlNGImINlOmLmOlPAmHIlRImOlSHIlTAmEKmHEAlWAlYObUCH GREATER-THANfLESS-THANcLTANI L
ETTER ApBAqHApCAqHApDAqDArDArHAqHApEpGAqHApHApIpJAqJApKAqHApLApMApNAqNAqYApPAqHApRAqHAqRApSApTAqHAq
TArHApUpVApYAiSECTION MARKeIMAPfPLE MUSICAL NOTEShICATION SIGNt IN DOUBLE CIRCLExLEFT HALF CIRCLExR
IGHT HALF CIRCLExTRIANGLEuWITH DOT ABOVEzUNDERBARpXfSETi MULTIPLICATIONjUNIONcSHROOMdIC FLAT SIGNgN
ATURAL SIGNgSHARP SIGNfAL KEYBOARDq WITH JACKSiNOTEiSCOREjYMBOL ARPEGGIATO DOWNbaUPpBEGIN BEAMvPHRA
SEvSLURvTIEqRACEtKETrEATH MARKsVEtISv RESTpC CLEFqAESURAqIRCLE X NOTEHEADqLIMACUSsVISrUSTER NOTEHEA
D BLACKbgWHITEqODArMBINING ACCENTbf-STACCATObaUGMENTATION DOTzBENDzDOITbbUBLE TONGUEbbWN BOWzFLAG-1
be2be3be4be5bbIPzHARMONICzLOUREzMARCATObg-STACCATOzRIPzSMEARbaNAP PIZZICATObaPRECHGESANG STEMbaTACC
ATISSIMObgObbEMzTENUTObaREMOLO-1bh2bh3bbIPLE TONGUEzUP BOWsMON TIMEqRESCENDOrOIXqUT TIMEpDA CAPOr
L SEGNOrMPt ALLrSHED BARLINEqECRESCENDOrGREE SLASHqOUBLE BARLINEwFLATwSHARPqRUM CLEF-1z2pEIGHTH NOT
EwRESTqND BEAMtOF STIMMEtPHRASEtSLURtTIEpF CLEFv OTTAVA ALTAbdBASSAqERMATAw BELOWqINAL BARLINEsGERE
D TREMOLO-1bg2bg3rVE-LINE STAFFqLAT DOWNuUPqORTErUR-LINE STAFFuSTRING FRETBOARDqUSA BLACKuWHITEpG C
LEFv OTTAVA ALTAbdBASSAqLISSANDO DOWNzUPqRACE NOTE NO SLASHbaSLASHrEGORIAN C CLEFzF CLEFpHALF NOTEu
PEDAL MARKuRESTrUPTSTIMMEpINVERTED TURNpKIEVAN C CLEFwEIGHTH NOTE STEM DOWNbnUPxND OF PIECEwFINAL N
OTExLAT SIGNwHALF NOTEwQUARTER NOTE STEM DOWNboUPwRECITATIVE MARKwWHOLE NOTEqORONpLEFT REPEAT SIGNq
ONGAu IMPERFECTA RESTvPERFECTA RESTpMAXIMAqEZZOqINIMAv BLACKwRESTqOON NOTEHEAD BLACKbdWHITEqULTI RE
STuPLE MEASURE RESTpNATURAL DOWNxUPqEBENSTIMMEqOTEHEAD BLACKqULL NOTEHEADpONE HUNDRED TWENTY-EIGHT
H NOTEbpRESTs-LINE STAFFqRNAMENT STROKE-1bg0bg1bf2bf3bf4bf5bf6bf7bf8bf9qTTAVA ALTAwBASSApPARENTHESI
S NOTEHEADqEDAL MARKvUP MARKrS SUBPUNCTISqIANOqLUS NOTEHEADqODATUSrRRECTUSy FLEXUSpQUARTER NOTExRES
TxTONE FLATbcSHARPrINDICESIMA ALTAbcBASSApREPEAT DOTSvED FIGURE-1bf2bf3rVERSE FINAL BARLINEqIGHT RE
PEAT SIGNrNFORZANDOpSCANDICUSy FLEXUSqEGNOrMIBREVIS BLACKbaRESTbaWHITEtMINIMA BLACKbaRESTbaWHITEqHA
RP DOWNvUPrORT BARLINEqINGLE BARLINErX-LINE STAFFtSTRING FRETBOARDsTEENTH NOTEzRESTtY-FOURTH NOTEbc
RESTqORIqQUARE BwNOTEHEAD BLACKbfWHITEqUBITOpTEMPUS IMPERFECTUM CUM PROLATIONE IMPERFECTAch DIMINUT
ION-1ct2ct3bxPERFECTAwPERFECTUM CUM PROLATIONE IMPERFECTAbvPERFECTAcd DIMINUTION-1qHIRTY-SECOND NOT
EbdRESTrREE-LINE STAFFqORCULUSx RESUPINUSqRrIANGLE NOTEHEAD DOWN BLACKbmWHITEbhLEFT BLACKbmWHITEbhR
IGHT BLACKbnWHITEbhUP BLACKbkRIGHT BLACKbqWHITEbkWHITEx-ROUND NOTEHEAD DOWN BLACKbsWHITEqURNt SLASH
uUPqWO-LINE STAFFpVIRGAqOID NOTEHEADpWHOLE NOTEvRESTqITH FINGERNAILSpX NOTEHEADpZbVSbWbYANMAR CONSO
NANT SIGN MEDIAL HAbeRAbeWAbeYAyON MEDIAL LAbiMAbiNAxSHAN MEDIAL WAiDIGIT EIGHToFIVEpOURoNINEoONEoS
EVENpIXoTHREEpWOoZEROiLETTER AqITON RAqUpBAqHApCAqHApDAqDArHAqHApEqASTERN PWO KAREN GHWAbhNNAbhYWAp
GAqHAqREAT SApHApIqIpJAqHApKAqHAsMTI CAxHAwDDAyHAxHAwFAwGAwHAxHAwJAxHAwLLAwNAxYAwRAwSAwTTAyHAwXAwZA
pLAqLApMAqON BBAvEtEtJHAtNGApNAqGAqNArYAqYApOpPAqHApRAqUMAI PALAUNG FApSAqGAW KAREN SHAqHAsN AuBAvH
AuCAvHAuDAuFAuGAvHAuHAuJHAuKAvHAuNAvNAvYAuPHAuTHAuZArWE PALAUNG CHAbcSHAqSApTArI LAING BAbaHAzDAbaD
AbbHAbaHAzFAzGAbaHAzJAbaHAzLLAzNNAbaYAqHAqTArHApUqUpVOCALIC LyLxRyRpWAqESTERN PWO KAREN PWAbhTHApYA
jOGOGRAM KHAMTI HMyOAYyQNiMODIFIER LETTER KHAMTI REDUPLICATIONySHAN REDUPLICATIONiSHAN DIGIT EIGHTt
FIVEuOURtNINEtONEtSEVENuIXtTHREEuWOtZEROjIGN ANUSVARAoSATnDOT BELOWnKHAMTI TONE-1z3nLITTLE SECTIONn
PAO KAREN TONEnRUMAI PALAUNG TONE-5nSECTIONoHAN COUNCIL EMPHATIC TONEbaTONE-2bf3sSAWsTONE-2x3x5x6nT
AI LAING TONE-2bc5nVIRAMApSARGAnWESTERN PWO KAREN TONE-1bk2bk3bk4bk5jYMBOL AFOREMENTIONEDqITON EXCL
AMATIONvONEvTWOpCOMPLETEDpGENITIVEpLOCATIVEpSHAN EXCLAMATIONuONEiTAI LAING DIGIT EIGHTyFIVEzOURyNIN
EyONEySEVENzIXyTHREEzWOyZEROjONE MARK SGAW KAREN HATHIbdKE PHOiVOWEL SIGN AAuIvTON AbaItEu ABOVEtGE
BA KAREN ItIuItKAYAH EEzOEzUtMON IIxOtSGAW KAREN EUuHAN AAyEz ABOVEyFINAL YtTALL AAtUuUtVOCALIC Lbc
LbbRbcRtWESTERN PWO KAREN EUblUE"

end TermAudit.CharacterName
