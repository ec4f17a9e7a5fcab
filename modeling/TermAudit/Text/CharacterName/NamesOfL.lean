/-!
# `TermAudit.Text.CharacterName.NamesOfL`: names of characters, first letters `L`

The names come in order. Before each one stands, as a number with the digits `a` to `z`, how many
code points it has in common with the one before. Line breaks count for nothing.
-/

set_option autoImplicit false

namespace TermAudit.CharacterName

/-- The names that begin with `L`. -/
def namesOfL : String :=
  "aL B BAR SYMBOLbAB COATdELcCROSSE STICK AND BALLcDDERdY BEETLEcNGUAGE TAGcO CANCELLATION MARKeDI
GIT EIGHTkFIVElOURkNINEkONEkSEVENlIXkTHREElWOkZEROeELLIPSISeHO MOhNOeKO LAeLETTER BOlCOlDOlFO FAYpO
NoSUNGoTAMlHO SUNGoTAMlKHMU GOqNYOnO SUNGpTAMmOlLOn LINGpOOTlMOlNGOmOmYOlOlPALI BHAqCHAqDDAsHArHAqG
HAqJHAqLLAqNNArYAqTTAsHAmHO SUNGpTAMmOlROlSANSKRIT SHAvSAmO SUNGoTAMlTHO SUNGpTAMmOlWOlYOeNIGGAHITA
eSEMIVOWEL SIGN LOtNYOfIGN PALI VIRAMAeTONE MAI CATAWAnEKnTHOoIeVOWEL SIGN AqAqIqMqYpEqIpIqIpMAI KA
NuONpOpUqUpYqYcRGE BLUE CIRCLElDIAMONDlSQUAREhROWN CIRCLEmSQUAREgCIRCLEgDOWN TACKgGREEN CIRCLEmSQUA
REgLEFT TRIANGLE OPERATORgONE DOT OVER TWO DOTS PUNCTUATIONkRING OVER TWO RINGS PUNCTUATIONhRANGE C
IRCLEnDIAMONDnSQUAREgPURPLE CIRCLEnSQUAREgRED CIRCLEkSQUAREgTRIPLE VERTICAL BAR OPERATORhWO DOTS OV
ER ONE DOT PUNCTUATIONkRINGS OVER ONE RING PUNCTUATIONgUP TACKgYELLOW CIRCLEnSQUAREfR THANl OR EQUA
L TOdI SIGNcST QUARTER MOONr SYMBOLsWITH FACEcTIN CAPITAL LETTER Aw WITH ACUTEbcBREVEbh AND ACUTEbm
DOT BELOWbmGRAVEbmHOOK ABOVEbmTILDEbcCARONbdIRCUMFLEXbm AND ACUTEbrDOT BELOWbrGRAVEbrHOOK ABOVEbrTI
LDEbcDIAERESISbl AND MACRONbdOT ABOVEbl AND MACRONbgBELOWbeUBLE GRAVEbcGRAVEbcHOOK ABOVEbcINVERTE
D BREVEbcMACRONbcOGONEKbcRING ABOVEbm AND ACUTEbhBELOWbcSTROKEbcTILDEwAwEx WITH ACUTEbdMACRONwFRICA
N DwLPHAwNGLICANA WwOwUwVx WITH HORIZONTAL BARwYvBw WITH DOT ABOVEbgBELOWbcFLOURISHbcHOOKbcLINE BEL
OWbcSTROKEbcTOPBARwETAwROKEN LvCw WITH ACUTEbcBARbcCARONbdEDILLAbj AND ACUTEbdIRCUMFLEXbcDOT ABOVEb
cHOOKbcPALATAL HOOKbcSTROKEwHIwLOSED INSULAR GwONwUATRILLObe WITH COMMAvDw WITH CARONbdEDILLAbdIRCU
MFLEX BELOWbcDOT ABOVEbgBELOWbcHOOKbcLINE BELOWbcSHORT STROKE OVERLAYbdMALL LETTER Zbq WITH CARONbd
TROKEbcTOPBARwZx WITH CARONvEw WITH ACUTEbcBREVEbcCARONbdEDILLAbj AND BREVEbdIRCUMFLEXbm AND ACUTEb
rDOT BELOWbrGRAVEbrHOOK ABOVEbrTILDEbnBELOWbcDIAERESISbdOT ABOVEbgBELOWbeUBLE GRAVEbcGRAVEbcHOOK AB
OVEbcINVERTED BREVEbcMACRONbi AND ACUTEbnGRAVEbcOGONEKbcSTROKEbcTILDEbh BELOWwGYPTOLOGICAL AINbkLEF
wNGwSHwTxHwZHy REVERSEDzWITH CARONvFw WITH DOT ABOVEbcHOOKbcSTROKEvGw WITH ACUTEbcBREVEbcCARONbdEDI
LLAbdIRCUMFLEXbcDOT ABOVEbcHOOKbcMACRONbcOBLIQUE STROKEbcSTROKEwAMMAwHAwLOTTAL AbdIbdSTOPbdUvHw WIT
H BREVE BELOWbcCARONbdEDILLAbdIRCUMFLEXbcDESCENDERbdIAERESISbdOT ABOVEbgBELOWbcHOOKbcSTROKEwALF HwE
NGwWAIRvIw WITH ACUTEbcBREVEbcCARONbdIRCUMFLEXbcDIAERESISbl AND ACUTEbdOT ABOVEbgBELOWbeUBLE GRAVEb
cGRAVEbcHOOK ABOVEbcINVERTED BREVEbcMACRONbcOGONEKbcSTROKEbcTILDEbh BELOWwNSULAR DbdFbdGbdRbdSbdTwO
TAwSvJw WITH CIRCUMFLEXbdROSSED-TAILbcSTROKEvKw WITH ACUTEbcCARONbdEDILLAbcDESCENDERbdIAGONAL STROK
EbdOT BELOWbcHOOKbcLINE BELOWbcOBLIQUE STROKEbcSTROKEbi AND DIAGONAL STROKEvLw WITH ACUTEbcBARbdELT
bcCARONbdEDILLAbdIRCUMFLEX BELOWbcDOT BELOWbl AND MACRONbeUBLE BARbcHIGH STROKEbcLINE BELOWbcMIDDL
E DOTbjTILDEbcSMALL LETTER JbdTROKEwJvMw WITH ACUTEbcDOT ABOVEbgBELOWbcHOOKwIDDLE SCOTS Sbb-WELSH L
LbiVvNw WITH ACUTEbcCARONbdEDILLAbdIRCUMFLEX BELOWbcDESCENDERbdOT ABOVEbgBELOWbcGRAVEbcLEFT HOOKbdI
NE BELOWbdONG RIGHT LEGbcOBLIQUE STROKEbcSMALL LETTER JbcTILDEwJvOw WITH ACUTEbcBREVEbcCARONbdIRCUM
FLEXbm AND ACUTEbrDOT BELOWbrGRAVEbrHOOK ABOVEbrTILDEbcDIAERESISbl AND MACRONbdOT ABOVEbl AND MACRO
NbgBELOWbeUBLE ACUTEbjGRAVEbcGRAVEbcHOOK ABOVEbeRNbg AND ACUTEblDOT BELOWblGRAVEblHOOK ABOVEblTILDE
bcINVERTED BREVEbcLONG STROKE OVERLAYbeOPbcMACRONbi AND ACUTEbnGRAVEbdIDDLE TILDEbcOGONEKbi AND MAC
RONbcSTROKEbi AND ACUTEbcTILDEbh AND ACUTEbmDIAERESISbmMACRONwIwLD POLISH OwMEGAwOwPEN EbaOwUvPw WI
TH ACUTEbcDOT ABOVEbcFLOURISHbcHOOKbcSQUIRREL TAILbdTROKEbi THROUGH DESCENDERvQw WITH DIAGONAL STRO
KEbcSTROKE THROUGH DESCENDERvRw ROTUNDAxWITH ACUTEbcCARONbdEDILLAbcDOT ABOVEbgBELOWbl AND MACRONbeU
BLE GRAVEbcINVERTED BREVEbcLINE BELOWbcOBLIQUE STROKEbcSTROKEbcTAILwEVERSED C WITH DOTbeEbeHALF Hbe
OPEN EwUM ROTUNDAvSw WITH ACUTEbh AND DOT ABOVEbcCARONbh AND DOT ABOVEbdEDILLAbdIRCUMFLEXbdOMMA BEL
OWbcDOT ABOVEbgBELOWbl AND DOT ABOVEbcHOOKbcOBLIQUE STROKEbcSHORT STROKE OVERLAYbdWASH TAILwALTILLO
wCHWAxRIPT GwHARP SwIGMOID SwMALL CAPITAL IbbQ WITH HOOK TAILvTw WITH CARONbdEDILLAbdIRCUMFLEX BELO
WbdOMMA BELOWbcDIAGONAL STROKEbdOT ABOVEbgBELOWbcHOOKbcLINE BELOWbcRETROFLEX HOOKbcSTROKEwHORNba WI
TH STROKEbm THROUGH DESCENDERwONE FIVEbaSIXbaTWOwRESILLOwURNED AbdLPHAbcHbcINSULAR GbcKbcLbcMbcTbcV
wZvUw BARxWITH ACUTEbcBREVEbcCARONbdIRCUMFLEXbm BELOWbcDIAERESISbl AND ACUTEbqCARONbqGRAVEbqMACRONb
mBELOWbdOT BELOWbeUBLE ACUTEbjGRAVEbcGRAVEbcHOOK ABOVEbeRNbg AND ACUTEblDOT BELOWblGRAVEblHOOK ABOV
EblTILDEbcINVERTED BREVEbcMACRONbi AND DIAERESISbcOGONEKbcRING ABOVEbcSTROKEbcTILDEbh AND ACUTEbiBE
LOWwPSILONvVw WITH DIAGONAL STROKEbdOT BELOWbcHOOKbcTILDEwENDwISIGOTHIC ZwOLAPUK AEbdOEbdUEwYvWw WI
TH ACUTEbcCIRCUMFLEXbcDIAERESISbdOT ABOVEbgBELOWbcGRAVEbcHOOKwYNNvXw WITH DIAERESISbdOT ABOVEvYw WI
TH ACUTEbcCIRCUMFLEXbcDIAERESISbdOT ABOVEbgBELOWbcGRAVEbcHOOKbg ABOVEbcLOOPbcMACRONbcSTROKEbcTILDEw
OGHvZw WITH ACUTEbcCARONbdIRCUMFLEXbcDESCENDERbdOT ABOVEbgBELOWbcHOOKbcLINE BELOWbcPALATAL HOOKbcST
ROKEbdWASH TAILpIGATURE IJxOEhROSSgEPIGRAPHIC LETTER ARCHAIC MyI LONGAzNVERTED MyREVERSED FbhPySIDE
WAYS IgLETTER AINoLVEOLAR CLICKnBIDENTAL PERCUSSIVEpLABIAL CLICKwPERCUSSIVEnDENTAL CLICKnGLOTTAL ST
OPz WITH STROKEnINVERTED GLOTTAL STOPbi WITH CURLboSTROKEnLATERAL CLICKnPHARYNGEAL VOICED FRICATIVE
nRETROFLEX CLICKbc WITH RETROFLEX HOOKpVERSED ESH LOOPwGLOTTAL STOP WITH STROKEnSINOLOGICAL DOToMAL
L CAPITAL AbcEbbBbcARRED BbbCbbDbbEbcTHbcZHbbFbbGbc WITH HOOKbbHbbIbcNVERTED RbbJbbKbbLbc WITH BELT
biSTROKEbbMbbNbbObcEbcPEN ObcUbbPbbQbbRbc WITH RIGHT LEGbcEVERSED NbkRbcUMbbSbbTbcURNED EbiGbiKbiMb
iRbbUbbVbbWbbYbbZoTRETCHED Cy WITH CURLnTWO WITH STROKEnVOICED LARYNGEAL SPIRANTnWYNNnYRgSMALL CAPI
TAL LETTER I WITH STROKEbbU WITH STROKEmLETTER Au REVERSED-SCHWAvWITH ACUTEbaBREVEbf AND ACUTEbkDO
T BELOWbkGRAVEbkHOOK ABOVEbkTILDEbaCARONbbIRCUMFLEXbk AND ACUTEbpDOT BELOWbpGRAVEbpHOOK ABOVEbpTILD
EbaDIAERESISbj AND MACRONbbOT ABOVEbj AND MACRONbeBELOWbcUBLE GRAVEbaGRAVEbaHOOK ABOVEbaINVERTED BR
EVEbaMACRONbaOGONEKbaRETROFLEX HOOKbbIGHT HALF RINGbcNG ABOVEbk AND ACUTEbfBELOWbaSTROKEbaTILDEuAuE
v WITH ACUTEbbMACRONuLPHAy WITH RETROFLEX HOOKuNGLICANA WuOuUuVv WITH HORIZONTAL BARuYtBu WITH DO
T ABOVEbeBELOWbaFLOURISHbaHOOKbaLINE BELOWbaMIDDLE TILDEbaPALATAL HOOKbaSTROKEbaTOPBARuARRED ALPHAb
aEbaOvSELINE ESHuETAuLACKLETTER EbfObg WITH STROKEuOTTOM HALF OuROKEN LtCu WITH ACUTEbaBARbaCARONbb
EDILLAbh AND ACUTEbbIRCUMFLEXbbURLbaDOT ABOVEbaHOOKbaPALATAL HOOKbaRETROFLEX HOOKbaSTROKEuHIw WIT
H LOW LEFT SERIFbgRIGHT RINGuLOSED INSULAR GbaOMEGAbbPEN EbaREVERSED OPEN EuONuUATRILLObc WITH COMM
AtDu WITH CARONbbEDILLAbbIRCUMFLEX BELOWbbURLbaDOT ABOVEbeBELOWbaHOOKbe AND TAILbaLINE BELOWbaMIDDL
E TILDEbaPALATAL HOOKbaSHORT STROKE OVERLAYbbTROKEbaTAILbbOPBARuB DIGRAPHuELTAvZH DIGRAPHbf WITH PA
LATAL HOOKblRETROFLEX HOOKuOTLESS IbbJbc WITH STROKEbo AND HOOKvUBLE Rbb WITH CROSSED-TAILbaTHORNba
WYNNuUMuZv DIGRAPHbd WITH CURLbjRETROFLEX HOOKwWITH CARONtEu WITH ACUTEbaBREVEbaCARONbbEDILLAbh AN
D BREVEbbIRCUMFLEXbk AND ACUTEbpDOT BELOWbpGRAVEbpHOOK ABOVEbpTILDEblBELOWbaDIAERESISbbOT ABOVEbeBE
LOWbcUBLE GRAVEbaFLOURISHbaGRAVEbaHOOK ABOVEbaINVERTED BREVEbaMACRONbg AND ACUTEblGRAVEbaNOTCHbaOGO
NEKbaRETROFLEX HOOKbaSTROKEbaTILDEbf BELOWuGYPTOLOGICAL AINbiLEFuNGw WITH CROSSED-TAILbcPALATAL HOO
KuSHw WITH CURLbcDOUBLE BARbm AND CURLbcPALATAL HOOKbcRETROFLEX HOOKuTvHuZHw REVERSEDxWITH CARONbdU
RLbcPALATAL HOOKbcRETROFLEX HOOKbcTAILtFu WITH DOT ABOVEbaHOOKbaMIDDLE TILDEbaPALATAL HOOKbaSTROKEu
ENG DIGRAPHbf WITH TRILLtGu WITH ACUTEbaBREVEbaCARONbbEDILLAbbIRCUMFLEXbaDOT ABOVEbaHOOKbaMACRONbaO
BLIQUE STROKEbaPALATAL HOOKbaSTROKEuAMMAuHAuLOTTAL AbbIbbSTOPbbUtHu WITH BREVE BELOWbaCARONbbEDILLA
bbIRCUMFLEXbaDESCENDERbbIAERESISbbOT ABOVEbeBELOWbaHOOKbaLINE BELOWbaPALATAL HOOKbaSTROKEuALF HuENG
x WITH HOOKuVtIu WITH ACUTEbaBREVEbaCARONbbIRCUMFLEXbaDIAERESISbj AND ACUTEbbOT BELOWbcUBLE GRAVEba
GRAVEbaHOOK ABOVEbaINVERTED BREVEbaMACRONbaOGONEKbaRETROFLEX HOOKbaSTROKEbg AND RETROFLEX HOOKbaTIL
DEbf BELOWuNSULAR DbbFbbGbbRbbSbbTvVERTED ALPHAbcOEuOTAx WITH STROKEwIFIED EuStJu WITH CARONbbIRCUM
FLEXbbROSSED-TAILbaSTROKEtKu WITH ACUTEbaCARONbbEDILLAbaDESCENDERbbIAGONAL STROKEbbOT BELOWbaHOOKba
LINE BELOWbaOBLIQUE STROKEbaPALATAL HOOKbaSTROKEbg AND DIAGONAL STROKEuRAtLu WITH ACUTEbaBARbbELTb
e AND PALATAL HOOKbaCARONbbEDILLAbbIRCUMFLEX BELOWbbURLbaDOT BELOWbj AND MACRONbcUBLE BARbhMIDDLE T
ILDEbaFISHHOOKbaHIGH STROKEbaINVERTED LAZY SbaLINE BELOWbaMIDDLE DOTbhRINGbhTILDEbaPALATAL HOOKbaRE
TROFLEX HOOKbo AND BELTbaSTROKEuAMBDA WITH STROKEuENIS FvZHx WITH RETROFLEX HOOKuJuONG Sz WITH DIAG
ONAL STROKEbgOT ABOVEbfHIGH STROKEuS DIGRAPHuUMuZ DIGRAPHtMu WITH ACUTEbaCROSSED-TAILbaDOT ABOVEbeB
ELOWbaHOOKbaMIDDLE TILDEbaPALATAL HOOKuIDDLE SCOTS Sz-WELSH LLbgVuUMtNu PRECEDED BY APOSTROPHEvWIT
H ACUTEbaCARONbbEDILLAbbIRCUMFLEX BELOWbbROSSED-TAILbbURLbaDESCENDERbbOT ABOVEbeBELOWbaGRAVEbaLEF
T HOOKbbINE BELOWbbONG RIGHT LEGbaMIDDLE TILDEbaOBLIQUE STROKEbaPALATAL HOOKbaRETROFLEX HOOKbaTILDE
uJuUMtOu WITH ACUTEbaBREVEbaCARONbbIRCUMFLEXbk AND ACUTEbpDOT BELOWbpGRAVEbpHOOK ABOVEbpTILDEbaDIAE
RESISbj AND MACRONbbOT ABOVEbj AND MACRONbeBELOWbcUBLE ACUTEbhGRAVEbaGRAVEbaHOOK ABOVEbcRNbe AND AC
UTEbjDOT BELOWbjGRAVEbjHOOK ABOVEbjTILDEbaINVERTED BREVEbaLONG STROKE OVERLAYbcOPbcW RING INSIDEbaM
ACRONbg AND ACUTEblGRAVEbaOGONEKbg AND MACRONbaRETROFLEX HOOKbaSTROKEbg AND ACUTEbaTILDEbf AND ACUT
EbkDIAERESISbkMACRONuIuLD POLISH OuMEGAuOuPEN Ez WITH RETROFLEX HOOKyOz WITH RETROFLEX HOOKbfSTROKE
zEuUtPu WITH ACUTEbaDOT ABOVEbaFLOURISHbaHOOKbaMIDDLE TILDEbaPALATAL HOOKbaSQUIRREL TAILbbTROKEbg T
HROUGH DESCENDERuHItQu WITH DIAGONAL STROKEbaHOOKbe TAILbaSTROKE THROUGH DESCENDERuP DIGRAPHtRu ROT
UNDAvWITH ACUTEbaCARONbbEDILLAbbROSSED-TAILbaDOT ABOVEbeBELOWbj AND MACRONbcUBLE GRAVEbaFISHHOOKb
i AND MIDDLE TILDEbnPALATAL HOOKbaINVERTED BREVEbaLINE BELOWbbONG LEGbaMIDDLE TILDEbaOBLIQUE STROKE
baPALATAL HOOKbaSTROKEbaTAILzOUT HANDLEuAMS HORNuEVERSED Cbd WITH DOTbcEbdNGbcHALF HbcKbcOPEN Ebi W
ITH HOOKboRETROFLEX HOOKbcR WITH FISHHOOKbcSCRIPT GuUMw ROTUNDAtSu WITH ACUTEbf AND DOT ABOVEbaCARO
Nbf AND DOT ABOVEbbEDILLAbbIRCUMFLEXbbOMMA BELOWbbURLbaDOT ABOVEbeBELOWbj AND DOT ABOVEbaHOOKbaMIDD
LE TILDEbaOBLIQUE STROKEbaPALATAL HOOKbaSHORT STROKE OVERLAYbbWASH TAILuAKHA YATvLTILLOuCHWAy WIT
H HOOKbeRETROFLEX HOOKvRIPT Gbb WITH CROSSED-TAILbaRbb WITH RINGuHARP SuIDEWAYS DIAERESIZED UbcOb
d WITH STROKEbdPEN ObcTURNED MbcUvGMOID SuQUAT REVERSED ESHuTIRRUP RtTu WITH CARONbbEDILLAbbIRCUMFL
EX BELOWbbOMMA BELOWbbURLbaDIAERESISbdGONAL STROKEbbOT ABOVEbeBELOWbaHOOKbe AND RETROFLEX HOOKbaLIN
E BELOWbaMIDDLE TILDEbaPALATAL HOOKbaRETROFLEX HOOKbaSTROKEuAILLESS PHIuC DIGRAPH WITH CURLuESH DIG
RAPHbf WITH PALATAL HOOKblRETROFLEX HOOKuH WITH STRIKETHROUGHvORNy WITH STROKEbk THROUGH DESCENDERu
ONE FIVEySIXyTWOvP HALF OuRESILLOuS DIGRAPHbd WITH RETROFLEX HOOKuUMvRNED AbbEbbLPHAbaDELTAbaEbaGba
Hbb WITH FISHHOOKbp AND TAILbaIbbNSULAR GbaKbaLbaMbb WITH LONG LEGbaO OPEN-Obi WITH STROKEbbEbc WIT
H HORIZONTAL STROKEbiSTROKEbbPEN EbaRbb WITH HOOKbhLONG LEGbp AND RETROFLEX HOOKbhMIDDLE TILDEbhPAL
ATAL HOOKbhTAILbaTbb WITH CURLbaUIbaVbaWbaYbb WITH BELTuZtUu BARy WITH SHORT RIGHT LEGvWITH ACUTEba
BREVEbaCARONbbIRCUMFLEXbk BELOWbaDIAERESISbj AND ACUTEboCARONboGRAVEboMACRONbkBELOWbbOT BELOWbcUBL
E ACUTEbhGRAVEbaGRAVEbaHOOK ABOVEbcRNbe AND ACUTEbjDOT BELOWbjGRAVEbjHOOK ABOVEbjTILDEbaINVERTED BR
EVEbaLEFT HOOKbaMACRONbg AND DIAERESISbaOGONEKbaRETROFLEX HOOKbbING ABOVEbaSHORT RIGHT LEGbbTROKEba
TILDEbf AND ACUTEbgBELOWuEuIuMuOuPSILONba WITH STROKEtVu WITH CURLbaDIAGONAL STROKEbbOT BELOWbaHOOK
baPALATAL HOOKbaRIGHT HOOKbaTILDEuENDuISIGOTHIC ZuOLAPUK AEbbOEbbUEuYtWu WITH ACUTEbaCIRCUMFLEXbaDI
AERESISbbOT ABOVEbeBELOWbaGRAVEbaHOOKbaRING ABOVEtXu WITH DIAERESISbbOT ABOVEbaLONG LEFT LEGbn AN
D LOW RIGHT RINGboWITH SERIFbcW RIGHT RINGbaPALATAL HOOKtYu WITH ACUTEbaCIRCUMFLEXbaDIAERESISbbOT A
BOVEbeBELOWbaGRAVEbaHOOKbe ABOVEbaLOOPbaMACRONbaRING ABOVEbaSHORT RIGHT LEGbbTROKEbaTILDEuOGHtZu WI
TH ACUTEbaCARONbbIRCUMFLEXbbURLbaDESCENDERbbOT ABOVEbeBELOWbaHOOKbaLINE BELOWbaMIDDLE TILDEbaPALATA
L HOOKbaRETROFLEX HOOKbaSTROKEbbWASH TAILnIGATURE FFxIxLwIwLvIJvLONG S TvOEvSThUBSCRIPT SMALL LETTE
R AbdEbdHbdIbdJbdKbdLbdMbdNbdObdPbdRbdSbeCHWAbdTbdUbdVbdXbEAF FLUTTERING IN WINDeY GREENcDGERcFT AN
D LOWER AND RIGHT TRIANGULAR THREE QUARTERS BLOCKpONE EIGHTH BLOCKjRIGHT DOUBLE TURNSTILEpTACKqRIAN
GULAR HALF BLOCKjUPPER AND RIGHT TRIANGULAR THREE QUARTERS BLOCKpONE EIGHTH BLOCKhGER BUBBLEiLE BRA
CKETs WITH DOTgRC LESS-THAN BRACKEThROW WITH CIRCLED PLUSqSMALL CIRCLEfBARB DOWN RIGHT BARB DOWN HA
RPOONbaUP HARPOONkUP RIGHT BARB DOWN HARPOONyUP HARPOONgLACK LENTICULAR BRACKETlTORTOISE SHELL BRAC
KETfCEILINGgLOSED ENTRYgORNER BRACKETgURLY BRACKETs LOWER HOOKtMIDDLE PIECEtUPPER HOOKfDOTTED SUBST
ITUTION BRACKEThUBLE ANGLE BRACKETmPARENTHESISmQUOTATION MARKmWIGGLY FENCEfFISH TAILhVE EIGHTHS BLO
CKgLOORfHALF BLACK CIRCLEqSTARmOCKkCIRCLEq WITH DOTwFOUR DOTSwTHREE DOTSxWO DOTSkFOLDERkINVERSE MED
IUM SHADE AND RIGHT HALF BLOCKkMEDIUM SHADEkRUNNING MANhND TELEPHONE RECEIVERfLOW PARAPHRASE BRACKE
TgUGGAGEfMULTIMAPfNORMAL FACTOR SEMIDIRECT PRODUCTfONE EIGHTH BLOCKjQUARTER BLOCKgUTER JOINfPARENTH
ESISq EXTENSIONrLOWER HOOKrUPPER HOOKfRAISED OMISSION BRACKETgIGHT ARROWq THROUGH SMALL CIRCLErWIT
H DOUBLE VERTICAL STROKEwSTROKEwVERTICAL STROKElBLACK ARROWlDOUBLE ARROWx WITH STROKEbdVERTICAL STR
OKElOPEN-HEADED ARROWlSANS-SERIF ARROWlTRIANGLE-HEADED ARROWlWAVE ARROWmHITE ARROWfS-SHAPED BAG DEL
IMITERgEMIDIRECT PRODUCThVEN EIGHTHS BLOCKgIDEWAYS U BRACKEThNGLE QUOTATION MARKgPEECH BUBBLEgQUAR
E BRACKETt EXTENSIONuLOWER CORNERuUPPER CORNERuWITH DOUBLE STROKEzQUILLzSTROKEzTICK IN BOTTOM CORNE
RbhTOP CORNERzUNDERBARgUBSTITUTION BRACKETfTACKgHIRD WHITE RIGHT POINTING INDEXhOUGHT BUBBLEhREE EI
GHTHS BLOCKlQUARTERS BLOCKgORTOISE SHELL BRACKETgRANSPOSITION BRACKEThIANGLE BESIDE VERTICAL BARlUL
AR ONE QUARTER BLOCKfVERTICAL BAR WITH QUILLpOX LINEfWHITE CORNER BRACKETmURLY BRACKETlLENTICULAR B
RACKETlPARENTHESISlSQUARE BRACKETlTORTOISE SHELL BRACKETgIGGLY FENCEgRITING HANDe-FACING ARMENIAN E
TERNITY SIGNmFISTmSVASTI SIGNx WITH DOTSfHANDED INTERLACED PENTAGRAMfPOINTING ANGLE BRACKEToCURVE
D ANGLE BRACKEToDOUBLE ANGLE QUOTATION MARKoMAGNIFYING GLASSfSHADED WHITE RIGHTWARDS ARROWgIDE AR
C ANTICLOCKWISE ARROWfTO-RIGHT EMBEDDINGoISOLATEoMARKoOVERRIDEeWARDS ARROWp ABOVE ALMOST EQUAL TOwR
EVERSE ALMOST EQUAL TObeTILDE OPERATORwSHORT RIGHTWARDS ARROWwTILDE OPERATORrND UPPER AND LOWER ON
E EIGHTH BLOCKqFROM BARy TO BLACK DIAMONDqOVER RIGHTWARDS ARROWqTHROUGH LESS-THANySUBSETyXrO BARw O
VER RIGHTWARDS ARROW TO BARuLACK DIAMONDqWITH DOTTED STEMxUBLE VERTICAL STROKEvEQUILATERAL ARROWHEA
DvHOOKvLARGE TRIANGLE ARROWHEADwOOPvMEDIUM TRIANGLE ARROWHEADvNOTCHED TAILvPLUS BELOWvSMALL EQUILAT
ERAL ARROWHEADbbTRIANGLE ARROWHEADwTROKEvTAILz WITH DOUBLE VERTICAL STROKEbfVERTICAL STROKEwIP DOWN
WARDSzUPWARDSvVERTICAL STROKEp-TAILkBACK-TILTED SHADOWED WHITE ARROWlLACK ARROWqCIRCLED WHITE ARROW
lOTTOM-SHADED WHITE ARROWkCOMPRESSED ARROWkDASHED ARROWlOUBLE ARROWw FROM BARxWITH STROKEbcVERTICA
L STROKEw-TAILrDASH ARROWkFINGER-POST ARROWlRONT-TILTED SHADOWED WHITE ARROWkHANDmRPOON OVER RIGHTW
ARDS HARPOONsWITH BARB DOWN ABOVE RIGHTWARDS HARPOON WITH BARB DOWNbhBELOW LONG DASHbhFROM BARbhT
O BARbgWARDSbcUP ABOVE LEFTWARDS HARPOON WITH BARB DOWNbmONG DASHblRIGHTWARDS HARPOON WITH BARB UPb
fFROM BARbfTO BARbeWARDSlEAVY ARROWqCOMPRESSED ARROWkLEFT-SHADED WHITE ARROWkOPEN-HEADED ARROWkPAIR
ED ARROWSkQUADRUPLE ARROWkRIGHT-SHADED WHITE ARROWlOCKETkSANS-SERIF ARROWlQUARED ARROWnIGGLE ARROWk
TOP SHADED WHITE ARROWlRIANGLE ARROWHEADs-HEADED ARROWbf OVER RIGHTWARDS TRIANGLE-HEADED ARROWbgT
O BARbgWITH BOLD SHAFTblDOUBLE HORIZONTAL STROKEbsVERTICAL STROKEblHEAVY SHAFTblLONG TIP DOWNWARDSb
uUPWARDSblMEDIUM SHAFTblNARROW SHAFTblVERY HEAVY SHAFTbaDASHED ARROWbaPAIRED ARROWSnPLE ARROWrDAS
H ARROWlWO HEADED ARROWn-HEADED ARROW FROM BARbbWITH DOUBLE VERTICAL STROKEbgTAILbk WITH DOUBLE VER
TICAL STROKEbqVERTICAL STROKEbhRIANGLE ARROWHEADSbgVERTICAL STROKEvTRIPLE DASH ARROWkWAVE ARROWlHIT
E ARROWv WITHIN TRIANGLE ARROWHEADcGcMONcOdPARDcPCHA CONSONANT SIGN KxANGwLwMwNxYIN-DOwPwRwThDIGI
T EIGHTnFIVEoOURnNINEnONEnSEVENoIXnTHREEoWOnZEROhLETTER AoBApLAoCApHAoDApDApZAoFApLAoGApLAoHApLAoJA
oKApHApLAoLAoMApLAoNApGApYAoPApHApLAoRAoSApHAoTApHApSAqHApTAqHAoVAoWAoYAhPUNCTUATION CER-WAtNYET TH
YOOM TA-ROLtTA-ROLuSHOOKz CER-WAhSIGN NUKTAmRANiUBJOINED LETTER RAyYAhVOWEL SIGN AAsEsIsOtOsUtUcSS-
THAN ABOVE DOUBLE-LINE EQUAL ABOVE GREATER-THANqGREATER-THAN ABOVE DOUBLE-LINE EQUALqLEFTWARDS ARRO
WqSIMILAR ABOVE GREATER-THANyOR EQUALrLANTED EQUAL ABOVE GREATER-THAN ABOVE SLANTED EQUALlND NOT AP
PROXIMATEoSINGLE-LINE NOT EQUAL TOkBUT NOT EQUAL TOvIVALENT TOkCLOSED BY CURVEz ABOVE SLANTED EQUAL
kEQUAL TO OR GREATER-THANkOR APPROXIMATEnEQUAL TOqIVALENT TOnGREATER-THANnSLANTED EQUAL TObd WITH D
OT ABOVEbs RIGHTbnINSIDElVER EQUAL TOkSIGNkWITH CIRCLE INSIDEpDOTpQUESTION MARK ABOVEcVEL SLIDERbFb
IBRAcGATURE OPEN ET ORNAMENTdHT CHECK MARKgEIGHT SPOKED ASTERISKgFIVE POINTED BLACK STARlSPOKED AST
ERISKhOUR POINTED BLACK CUSPzSTARgGREEK CROSSgLEFT TORTOISE SHELL BRACKET ORNAMENTgRAILhIGHT TORTOI
SE SHELL BRACKET ORNAMENTgSALTIREhHADEhIX SPOKED ASTERISKgTHREE POINTED BLACK STARhWELVE POINTED BL
ACK STARgVERTICAL BARgWHITE SQUAREfNINGj MOODo BUBBLEcMBU DIGIT EIGHTmFIVEnOURmNINEmONEmSEVENnIXmTH
REEnWOmZEROgEXCLAMATION MARKgLETTER BAoHAnCAoHAnDAoHAnGAoHAoYANnHAnJAoHAnKAoHAnLAnMAnNAoGAnPAoHAnRA
nSAoHAoSAnTAoHAoRAnWAnYApNgQUESTION MARKgSIGN KEMPHRENGlLOOlMUKPHRENGlSA-IhMALL LETTER ANUSVARAtKAt
LAtMAtNAuGAtPAtRAtTAhUBJOINED LETTER RAxWAxYAgVOWEL SIGN AsIsUrEsErIrOsOrUl-CARRIER LETTERdITED LIA
BILITY SIGNcNE FEEDfINTEGRATION NOT INCLUDING THE POLErWITH RECTANGULAR PATH AROUND POLEwSEMICIRCUL
AR PATH AROUND POLEfSEPARATORfTABULATIONp SETeAR A SIGN A028Bp100-102q20Bq31Cp301r2r3r4r5r6r7r8r9As
BsCq10r1r2r3AsBsCr4r5r6r7r8r9q20r1r2r3r4r5r6r7r8r9q30r1r2r3r4r5r6r7r8r9q40r1r2r3r4r5r6r7r8r9q50r1r2
r3r4r5r6r7r8r9q60r1r2r3r4r5r6r7r8r9q70r1p400-VASr1-VASr2-VASr3-VASr4-VASr5-VASr6-VASr7-VASr8-VASr9-
VASq10-VASr1-VASr2-VASr3-VASr4-VASr5-VASr6-VASr7-VASr8-VASp501r2r3r4r5r6r8r9q10r1r2r3r5r6q20r1r3r4r
5r6r7r8r9q30r1r2r4r5r6r7r8r9q40r1r2r5r7r8r9q50r1r2r3r4r5r6r7r9q63r4r5r6r8r9q70r1r2r3r4r5r6r7r8r9q80
r1r2r3r4r5r6r7r8r9q91r2r4r5r6r8p600r1r2r3r4r6r8r9q10r1r2r3r4r5r6r7r8r9q20r1r2r3r4r6r7r8r9q34r7r8q40
r2r3r4r5r6r8r9q51r2r3r4r5r6r7r8r9q60r1r2r3r4p701 Ar2 Br3 Dr4 Er5 Fr6 Hr7 Jr8 Kr9 Ls-2 L2t3 L3t4 L4t
6 L6q10 Wr1 Xr2 Yr3 OMEGAr4 ABBr5 BBr7 DDq26 EYYYq32 JEp800r1r2r3r4r5r6r7pB001s2s3s4s5s6s7s8s9r10s1
s3s6s7r20s1tFtMs2tFtMs3tMs4s6s7s8s9r30s1s4s7s8s9r40s1s4s5s6s7s8s9r50s1s3s4s5s6s7s8s9r60s1s5s6s7s9r7
0s3s4s6s7s8s9r80s1s2s5s6s7q118r20s2s3r31AtBr64r71r80s8r91hB IDEOGRAM B100 MANv2 WOMANv4 DEERv5 EQUI
DwF MAREwM STALLIONv6F EWEwM RAMv7F SHE-GOATwM HE-GOATv8F SOWwM BOARv9F COWwM BULLu20 WHEATv1 BARLE
Yv2 OLIVEv3 SPICEv5 CYPERUSu30 OILv1 WINEv2u40 BRONZEv1 GOLDv2v5 WOOLv6u50v1 HORNv2v3v4v7v8v9 CLOTH
u60v1v2 GARMENTv3 ARMOURv4v5v6v7v8v9u70v1v2v3 MONTHv4v6 TREEv7v8v9u80v1v2v3v4v5v9u90v1 HELMETt220 F
OOTSTOOLv5 BATHTUBu30 SPEARv1 ARROWv2v3 SWORDv4v6u40 WHEELED CHARIOTv1 CHARIOTv2 CHARIOT FRAMEv3 WH
EELv5v6v8v9u51v2v3v4 DARTv5v6v7v8v9sVESSEL B155ba200bc1bc2bc3bc4bc5bc6bc7bc8bc9bb10bc1bc2bc3bc4bc5b
c6bc7bc8bc9bb21bc2bc6bc7bc8bc9bb50ba305jMONOGRAM B127 KAPOv8 KANAKOu33 AREPAv5 MERIu56 TURO2t247 DI
PTEjSYLLABLE B001 DAv2 ROv3 PAv4 TEv5 TOv6 NAv7 DIv8 Av9 SEu10 Uv1 POv2 SOv3 MEv4 DOv5 MOv6 QAv7 ZA
u20 ZOv1 QIv3 MUv4 NEv5 A2v6 RUv7 REv8 Iv9 PU2u30 NIv1 SAv2 QOv3 RA3v6 JOv7 TIv8 Ev9 PIu40 WIv1 SIv
2 WOv3 A3v4 KEv5 DEv6 JEv8 NWAu50 PUv1 DUv2 NOv3 RIv4 WAv5 NUv7 JAv8 SUv9 TAu60 RAv1 Ov2 PTEv5 JUv
6 TA2v7 KIv8 RO2v9 TUu70 KOv1 DWEv2 PEv3 MIv4 ZEv5 WEv6 RA2v7 KAv8 QEu80 MAv1 KUv5 AUv7 TWEu90 DWOv
1 TWOlMBOL B018t9s22s34s47t9s56s63t4s79s82t3t6t9dK SYMBOLeED PAPERCLIPScON FACEcPSeTICKcRA SIGNcS
U LETTER AnEmBAmCAnHAmDAnZAmEnUmFAmGAnHAmHAnHAmImJAmKAnHAmLAmMAmNAnGAmOnEmPAnHAmSAnHAmTAnHAnONE MY
A BOvCYAvJEUvNAvTIrNA POnSAoHAmUnEnHmWAmXAmYAnHAmZAnHAfPUNCTUATION COMMArFULL STOPcVRE TOURNOIS SIG
NcZARDbLAMAbOBSTERcCKe WITH INK PENeING-SHIFT ONEoZEROcGICAL ANDl WITH DOT ABOVEtUBLE OVERBARyUNDER
BARrHORIZONTAL DASHrMIDDLE STEMrUNDERBARiORk OVERLAPPING LOGICAL ANDlWITH DOT ABOVEsUBLE OVERBARxUN
DERBARqHORIZONTAL DASHqMIDDLE STEMcLLIPOPcNG DASH FROM LEFT MEMBER OF DOUBLE VERTICALgIVISIONgRUMfL
EFT RIGHT ARROWqDOUBLE ARROWkTACKjWARDS ARROWu FROM BARpDOUBLE ARROWbb FROM BARpSQUIGGLE ARROWfRIGH
T TACKkWARDS ARROWv FROM BARqDOUBLE ARROWbc FROM BARqSQUIGGLE ARROWcTION BOTTLEdUScUDLY CRYING FACE
cVE HOTELfLETTERcW ASTERISKeBATTERYfRIGHTNESS SYMBOLeDOUBLE PRIME QUOTATION MARKeKAVYKAk WITH DOTeL
INEdER BLADE SCISSORSgFIVE EIGHTHS BLOCKgHALF BLOCKlCIRCLElINVERSE WHITE CIRCLElMEDIUM SHADEgLEFT B
ALLPOINT PENmLOCK DIAGONAL LOWER MIDDLE LEFT TO LOWER CENTREcbRIGHTbaUPPER CENTRE TO LOWER MIDDLE R
IGHTbwRIGHTbqUPPER MIDDLE RIGHTbgLEFT TO LOWER CENTREbuMIDDLE RIGHTboUPPER MIDDLE RIGHTbgMIDDLE LEF
T TO LOWER CENTREcbMIDDLE RIGHTcbRIGHTlCRAYONlFOUNTAIN PENlPAINTBRUSHmENCILlQUADRANT CIRCULAR ARClS
EMICIRCULAR ANTICLOCKWISE ARROWlTRIANGLErULAR MEDIUM SHADEgONE EIGHTH BLOCKkQUARTER BLOCKgRIGHT BLO
CK DIAGONAL LOWER CENTRE TO LOWER MIDDLE RIGHTbrUPPER MIDDLE RIGHTbxRIGHTbhLEFT TO LOWER MIDDLE RIG
HTbpUPPER CENTREbvMIDDLE RIGHTbhMIDDLE LEFT TO UPPER CENTREccMIDDLE RIGHTccRIGHTbbUPPER MIDDLE LEF
T TO UPPER CENTREccRIGHTmCORNER WITH DOTmDROP-SHADOWED WHITE SQUAREmPENCILmQUADRANT CIRCULAR ARCmSE
MICIRCULAR CLOCKWISE ARROWnHADOWED WHITE CIRCLEbbSQUAREmTRIANGLEsULAR MEDIUM SHADEgSEVEN EIGHTHS BL
OCKgTHREE EIGHTHS BLOCKmQUARTERS BLOCKhRIANGULAR ONE QUARTER BLOCKcZENGEh DIVIDED BY HORIZONTAL RUL
EbREcIcMcObUGGAGEcNGSbYCIAN LETTER ApNoBpHoDoEpNoGoHoIoJoKpKoLoMpMoNpNoPoQoRoSoTpHpToUoWoXoZcDIAN L
ETTER ApNoBoCoDoEpNoFoGoIoKoLpYoMoNpNoOoQoRoSpSoTpToUoVoYhTRIANGULAR MARKcING FACE"

end TermAudit.CharacterName
