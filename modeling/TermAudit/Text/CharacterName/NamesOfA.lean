/-!
# `TermAudit.Text.CharacterName.NamesOfA`: names of characters, first letters `A`

The names come in order. Before each one stands, as a number with the digits `a` to `z`, how many
code points it has in common with the one before. Line breaks count for nothing.
-/

set_option autoImplicit false

namespace TermAudit.CharacterName

/-- The names that begin with `A`. -/
def namesOfA : String :=
  "aABACUSbC CURRENTcCORDIONeUNT OFcKdNOWLEDGEcTIVATE ARABIC FORM SHAPINGjSYMMETRIC SWAPPINGcUTE AC
CENThNGLEbDDRESSED TO THE SUBJECTcHESIVE BANDAGEcI SHAKTIcLAM ALIF LENGTHENERgCAPITAL LETTER ALIFvB
AwHEvCHIvDAALIwHAvEvFAvGAwBEvHAvIvJIIMvKAFwHAwPOvLAAMvMIIMvNHAwUNwYAvOvPEvQAAFvRAvSHAwINNYIIYHEvTUv
UvVAvWAWvYAwHEvZALhONSONANT MODIFIERgDIGIT EIGHTmFIVEnOURmNINEmONEmSEVENnIXmTHREEnWOmZEROgGEMINAT
E CONSONANT MODIFIERnION MARKgHAMZAgINITIAL EXCLAMATION MARKoQUESTION MARKgNASALIZATION MARKhUKTAgS
MALL LETTER ALIFtBAuHEtCHItDAALIuHAtEtFAtGAuBEtHAtItJIIMtKAFuHAuPOtLAAMtMIIMtNHAuUNuYAtOtPEtQAAFtRA
tSHAuINNYIIYHEtTUtUtVAtWAWtYAuHEtZALgVOWEL LENGTHENERcMETOSdISSION TICKETScULTbEGEAN CHECK MARKhDR
Y MEASURE FIRST SUBUNIThLIQUID MEASURE FIRST SUBUNIThMEASURE SECOND SUBUNITpTHIRD SUBUNIThNUMBER EI
GHTt HUNDREDuTHOUSANDtYu THOUSANDoFIFTYt THOUSANDqVEs HUNDREDtTHOUSANDpORTYt THOUSANDqURs HUNDREDtT
HOUSANDoNINEs HUNDREDtTHOUSANDsTYu THOUSANDoONEr HUNDREDsTHOUSANDoSEVENt HUNDREDuTHOUSANDtTYv THOUS
ANDpIXr HUNDREDsTHOUSANDrTYt THOUSANDoTENr THOUSANDpHIRTYu THOUSANDqREEt HUNDREDuTHOUSANDpWENTYu TH
OUSANDqOr HUNDREDsTHOUSANDhWEIGHT BASE UNIToFIRST SUBUNITpOURTH SUBUNIToSECOND SUBUNIToTHIRD SUBUNI
TiORD SEPARATOR DOTwLINEcRIAL TRAMWAYbFGHANI SIGNbHOM CONSONANT SIGN MEDIAL LAbcIGATING RAbbRAfDIGI
T EIGHTlFIVEmOURlNINElONElSEVENmIXlTHREEmWOlZEROfLETTER AnLTERNATE BAwGAwTAmBAnHAmCAnHAmDAnDAoHAnHA
mGAnHAmHAmJAnHAmKAnHAmLAnLAmMAmNAnGAnNAnYAmPAnHAmRAmSAmTAnHAnTAoHAfNUMBER TENnWENTYfSIGN KILLERkRUL
AIkSECTIONlMALL SECTIONgYMBOL VIfVOWEL SIGN ArArIrMrWqEqIrIqOqUrUbIRPLANEi ARRIVINGjDEPARTUREbKTIES
ELSKABbLARM CLOCKcCHEMICAL SYMBOL FOR AIRxLEMBICyKALIbc-2yUMxMALGAMxNTIMONY ORExQUA REGIAbg-2bbVITA
Ebg-2baFORTISxRSENICxSHESxURIPIGMENTwBATH OF MARYbeVAPOURSxISMUTH ORExLACK SULFURxORAXbb-2bc3xRICKw
CADUCEUSyLXyPUT MORTUUMxINNABARxOPPER ANTIMONIATEbdORExROCUS OF COPPERbm-2bgIRONyUCIBLEbe-2bf3bf4bf
5wDAY-NIGHTxISSOLVEbe-2zTILLwEARTHwFIREwGOLDxUMwHALF DRAMbbOUNCExORSE DUNGyURwIRON OREbe-2ba-COPPE
R OREwLEAD ORExODESTONEwMARCASITExERCURY SUBLIMATEbn-2bo3xONTHwNIGHTyTREwOILwPHILOSOPHERS SULFURxO
T ASHESyWDERbcED BRICKxRECIPITATExURIFYyTREFACTIONwQUICK LIMEzNTESSENCEwREALGARbd-2yGULUSbd OF ANTI
MONYbp-2bhIRONbd-2be3be4yTORTxOCK SALTbf-2wSAL-AMMONIACzTba OF ANTIMONYbeCOPPER ANTIMONIATExCEPTE
R OF JOVExILVERxOAPxPIRITxTARRED TRIDENTyRATUM SUPER STRATUMbr-2xUBLIMATE OF ANTIMONYbjCOPPERbjSAL
T OF ANTIMONYbrCOPPERbeIONyLFURwTARTARbc-2xIN OREzCTURExRIDENTxUTTYwURINEwVERDIGRISxINEGARbd OF ANT
IMONYbd-2be3yTRIOLbd-2wWATERyXcEF SYMBOLdMBICdRTcIEN MONSTERcL AROUND-PROFILEeEQUAL TOcMdOST EQUA
L OR EQUAL TOnTOp WITH CIRCUMFLEX ACCENTcTERNATE ONE-WAY LEFT WAY TRAFFICiIVE KEY SYMBOLbMALGAMATIO
N OR COPRODUCTcBULANCEcERICAN FOOTBALLcPERSANDdHORAbNATOLIAN HIEROGLYPH A001y2y3y4y5y6y7y8y9x10zAy1
y2y3y4y5y6y7y8y9x20y1y2y3y4y5y6zAy7y8y9x30y1y2y3y4y5y6y7y8y9zAx40y1zAy2y3y4y5zAy6zAzBy7y8y9x50y1y2y
3y4y5y6y7y8y9x60y1y2y3y4y5y6zAzBzCy7y8y9x70y1y2y3y4y5y6y7y8y9x80y1y2y3y4y5y6y7y8y9x90y1y2y3y4y5y6y7
zAy8zAy9w100zAy1zAy2zAy3y4zAzBzCy5zAzBy6y7zAzBzCy8y9x10zAzBy1y2y3y4y5zAy6y7y8y9x20y1y2y3y4y5zAy6y7y
8y9x30y1y2y3y4y5zAy6y7y8y9x40y1y2y3y4y5y6y7y8y9x50y1y2y3y4y5y6y7y8y9x60y1y2y3y4y5y6y7y8y9x70y1y2y3y
4y5y6y7y8y9x80y1y2y3y4y5y6y7y8y9x90y1y2y3y4y5y6y7y8y9w200y1y2zAzBy3y4y5y6y7zAy8y9zAx10y1y2y3y4y5zAy
6zAy7y8y9x20y1y2y3y4y5y6y7zAy8y9x30y1y2y3y4y5y6y7y8y9x40y1y2y3y4y5y6y7y8y9x50y1y2y3y4y5y6y7y8y9x60y
1y2y3y4y5y6y7zAy8y9x70y1y2y3y4y5y6y7y8y9x80y1y2y3y4y5y6y7y8y9zAx90y1y2y3y4zAy5y6y7y8y9zAw300y1y2y3y
4y5y6y7y8y9zAx10y1y2y3y4y5y6y7y8y9x20y1y2y3y4y5y6y7y8y9zAx30y1y2AzBzCy3y4y5y6zAzBzCy7y8y9x40y1y2y3y
4y5y6y7y8y9x50y1y2y3y4y5y6y7y8y9zAx60y1y2y3y4zAy5y6y7y8zAy9x70y1zAy2y3y4y5y6y7y8y9x80y1zAy2y3 RA O
R RIzAy4y5y6zAy7y8y9x90y1y2y3 EIGHTy4y5y6y7y8y9w400y1y2y3y4y5y6y7y8y9x10 BEGIN LOGOGRAM MARKzA EN
D LOGOGRAM MARKy1y2y3y4y5y6y7y8y9x20y1y2y3y4y5y6y7y8y9x30y1y2y3y4y5y6y7y8y9x40y1y2y3y4y5y6y7y8y9x50
zAy1y2y3y4y5y6y7zAy8y9x60y1y2y3y4y5y6y7y8y9x70y1y2y3y4y5y6y7y8y9x80y1y2y3y4y5y6y7y8y9x90y1y2y3y4y5y
6y7w501y2y3y4y5y6y7y8y9x10y1y2y3y4y5y6y7y8y9x20y1y2y3y4y5y6y7y8y9x30fMICAL HEARTcCHORcD WITH DOTcGE
R SYMBOLdLEf WITH S INSIDElUNDERBARdRY FACEdSTROM SIGNdUISHED FACEcKHcTdENNA WITH BARSdICLOCKWISE C
LOSED CIRCLE ARROWpONTOUR INTEGRALoDOWNWARDS AND UPWARDS OPEN CIRCLE ARROWSoGAPPED CIRCLE ARROWoINT
EGRATIONoOPEN CIRCLE ARROWoTOP SEMICIRCLE ARROWpRIANGLE-HEADED BOTTOM U-SHAPED ARROWbeLEFT U-SHAPE
D ARROWbeOPEN CIRCLE ARROWbeRIGHT U-SHAPED ARROWbeTOP U-SHAPED ARROWbPCcL FUNCTIONAL SYMBOL ALPHAb
b UNDERBARwBACKSLASH BARwCIRCLE BACKSLASHbdDIAERESISbdJOTbdSTARbfILEbdUNDERBARxOMMA BARwDEL DIAERES
ISbaSTILEbaTILDEzTA STILEbcUNDERBARxIAMOND UNDERBARxOWN CARET TILDEbbSHOE STILEbbTACK JOTbgUNDERBAR
baWARDS VANEwEPSILON UNDERBARwGREATER-THAN DIAERESISwI-BEAMxOTAba UNDERBARwJOT DIAERESISbaUNDERBARw
LEFT SHOE STILEbaWARDS VANEwOMEGAbb UNDERBARwQUADba BACKSLASHbbCIRCLEbcOLONbbDELbeTAbcIAMONDbdVIDEb
cOWN CARETbfWARDS ARROWbbEQUALbbGREATER-THANbbJOTbbLEFTWARDS ARROWbdSS-THANbbNOT EQUALbbQUESTIONbbR
IGHTWARDS ARROWbbSLASHbbUP CARETbdWARDS ARROWyOTE QUADbcUNDERBARwRHOxIGHTWARDS VANEwSEMICOLON UNDER
BARxLASH BARxQUISH QUADxTAR DIAERESISyILE TILDEwTILDE DIAERESISwUP CARET TILDEzSHOE JOTzTACK DIAERE
SISbeJOTbeOVERBARyWARDS VANEwZILDEcOLLONdSTROPHEcPLICATION PROGRAM COMMANDdROACHES THE LIMITfXIMATE
LY BUT NOT ACTUALLY EQUAL TOoEQUAL OR EQUAL TOuTOw OR THE IMAGE OFbQUARIUSbRABIC BASELINE ROUND DOT
hCOMMAiURLY DAMMAsTANnFATHAsTANnKASRAsTANhDAMMAm ISOLATED FORMnMEDIAL FORMnWITH DOTmTANp ISOLATED F
ORMjTE SEPARATORiECIMAL SEPARATORiISPUTED END OF AYAHiOUBLE RIGHT ARROWHEAD ABOVEbj WITH DOTnD MADD
AhEMPTY CENTRE HIGH STOPuLOW STOPiND OF AYAHoTEXT MARKhFATHAm ISOLATED FORMnMEDIAL FORMnWITH DOT AB
OVEsRINGsTWO DOTSmTANp ISOLATED FORMiIVE POINTED STARiOOTNOTE MARKERiULL STOPhHALF MADDA OVER MADDA
jMZA ABOVEnBELOWhINVERTED DAMMAhKASRAm ISOLATED FORMnMEDIAL FORMnWITH DOT BELOWmTANp ISOLATED FORMh
LARGE CIRCLE BELOWnROUND DOT ABOVExBELOWxINSIDE CIRCLE BELOWiEFT ARROWHEAD ABOVEwBELOWjTTER AEpFRIC
AN FEHwNOONwQAFz WITH THREE DOTS ABOVEpINr FINAL FORMsINITIAL FORMtSOLATED FORMsMEDIAL FORMsWITH TH
REE DOTS ABOVEbiBELOWbiPOINTING DOWNWARDS ABOVEyWO DOTS ABOVEbgVERTICALLY ABOVEpLEFs FINAL FORMtISO
LATED FORMtMAKSURAba FINAL FORMbbISOLATED FORMtWASLAy FINAL FORMzISOLATED FORMuITH ATTACHED BOTTO
M RIGHT KASRAbz AND DOT ABOVEceLEFT RINGbhFATHAbhKASRAbhLEFT HAMZAbmROUND DOTbhRIGHT HAMZAbnROUND D
OTbiOUND DOT ABOVEbrBELOWbhTOP RIGHT FATHAbw AND DOT ABOVEcbLEFT RINGyDOT ABOVEyEXTENDED ARABIC-IND
IC DIGIT THREE ABOVEcbWO ABOVEyHAMZA ABOVEbj FINAL FORMbkISOLATED FORMbeBELOWbj FINAL FORMbkISOLATE
D FORMyLEFT MIDDLE STROKEyMADDA ABOVEbj FINAL FORMbkISOLATED FORMyRIGHT MIDDLE STROKEbr AND DOT ABO
VEbwLEFT RINGyWAVY HAMZA ABOVEbjBELOWoBEEHs FINAL FORMtINITIAL FORMuSOLATED FORMtMEDIAL FORMqHr FIN
AL FORMsINITIAL FORMtSOLATED FORMsMEDIAL FORMsWITH DOT BELOW AND THREE DOTS ABOVExHAMZA ABOVExINVER
TED SMALL V BELOWxSMALL MEEM ABOVEbdVbe BELOWxTHREE DOTS HORIZONTALLY BELOWbiPOINTING UPWARDS BELOW
ce AND TWO DOTS ABOVEyWO DOTS BELOW AND DOT ABOVErEHt FINAL FORMuINITIAL FORMvSOLATED FORMuMEDIAL F
ORMoDADr FINAL FORMsINITIAL FORMtSOLATED FORMsMEDIAL FORMsWITH DOT BELOWqHALt FINAL FORMuISOLATED F
ORMqLr FINAL FORMsISOLATED FORMsWITH DOT BELOWbg AND SMALL TAHxFOUR DOTS ABOVExINVERTED SMALL V BEL
OWbgVxRINGxTHREE DOTS ABOVE DOWNWARDSbiBELOWyWO DOTS VERTICALLY BELOW AND SMALL TAHpDAHALu FINAL FO
RMvISOLATED FORMrLs FINAL FORMtISOLATED FORMpOTLESS BEHwFEHwQAFpULr FINAL FORMsISOLATED FORMpYEHs F
INAL FORMtINITIAL FORMuSOLATED FORMtMEDIAL FORMoEp FINAL FORMqINITIAL FORMrSOLATED FORMqMEDIAL FORM
oFARSI YEHx FINAL FORMyINITIAL FORMzSOLATED FORMyMEDIAL FORMyWITH EXTENDED ARABIC-INDIC DIGIT FOU
R BELOWcfTHREE ABOVEcgWO ABOVEbdINVERTED VbdTHREE DOTS ABOVEbeWO DOTS ABOVEpEHr FINAL FORMsINITIA
L FORMtSOLATED FORMsMEDIAL FORMsWITH DOT BELOWbg AND THREE DOTS ABOVEbbMOVED BELOWxTHREE DOTS BELOW
biPOINTING UPWARDS BELOWyWO DOTS BELOWoGAFr FINAL FORMsINITIAL FORMtSOLATED FORMsMEDIAL FORMsWITH I
NVERTED STROKExRINGxTHREE DOTS ABOVEyWO DOTS BELOWpHAINt FINAL FORMuINITIAL FORMvSOLATED FORMuMEDIA
L FORMuWITH DOT BELOWzTHREE DOTS ABOVEpRAFpUEHs FINAL FORMtINITIAL FORMuSOLATED FORMtMEDIAL FORMoHA
Hr FINAL FORMsINITIAL FORMtSOLATED FORMsMEDIAL FORMsWITH EXTENDED ARABIC-INDIC DIGIT FOUR BELOWxHAM
ZA ABOVExINVERTED SMALL V BELOWxSMALL ARABIC LETTER TAH ABOVEbwND TWO DOTSbvBELOWxTHREE DOTS ABOVEb
iPOINTING UPWARDS BELOWyWO DOTS ABOVEbgVERTICAL ABOVEqMZAt ISOLATED FORMpEHr DOACHASHMEEbd FINAL FO
RMbeINITIAL FORMbfSOLATED FORMbeMEDIAL FORMsFINAL FORMsGOALw FINAL FORMxINITIAL FORMySOLATED FORMxM
EDIAL FORMxWITH HAMZA ABOVEsINITIAL FORMtSOLATED FORMsMEDIAL FORMsWITH INVERTED VxYEH ABOVEbg FINA
L FORMbhISOLATED FORMpIGH HAMZAy ALEFzWAWzYEHoJEEMs FINAL FORMtINITIAL FORMuSOLATED FORMtMEDIAL FOR
MtWITH THREE DOTS ABOVEbjBELOWzWO DOTS ABOVEqHr FINAL FORMsISOLATED FORMoKAFr FINAL FORMsINITIAL FO
RMtSOLATED FORMsMEDIAL FORMsWITH DOT ABOVEbbBELOWxRINGxTHREE DOTS BELOWyWO DOTS ABOVEqSHMIRI YEHpEH
EHt FINAL FORMuINITIAL FORMvSOLATED FORMuMEDIAL FORMuWITH DOT ABOVEzSMALL VzTHREE DOTS ABOVEbkBELOW
bkPOINTING UPWARDS BELOWbaWO DOTS ABOVEbiVERTICALLY BELOWpHAHs FINAL FORMtINITIAL FORMuSOLATED FORM
tMEDIAL FORMpIRGHIZ OEy FINAL FORMzISOLATED FORMwYUy FINAL FORMzISOLATED FORMoLAMr FINAL FORMsINITI
AL FORMtSOLATED FORMsMEDIAL FORMsWITH BARxDOT ABOVEzUBLE BARxSMALL ARABIC LETTER TAH ABOVEbdVxTHRE
E DOTS ABOVEbiBELOWpOW ALEFoMARKpEEMs FINAL FORMtINITIAL FORMuSOLATED FORMtMEDIAL FORMtWITH DOT ABO
VEbcBELOWyTHREE DOTS ABOVEoNGq FINAL FORMrINITIAL FORMsSOLATED FORMrMEDIAL FORMqOEHt FINAL FORMuINI
TIAL FORMvSOLATED FORMuMEDIAL FORMpOONs FINAL FORMtGHUNNAz FINAL FORMbaISOLATED FORMtINITIAL FORMuS
OLATED FORMtMEDIAL FORMtWITH DOT BELOWyINVERTED SMALL VyRINGySMALL TAHbeVyTHREE DOTS ABOVEzWO DOT
S BELOWpYEHs FINAL FORMtINITIAL FORMuSOLATED FORMtMEDIAL FORMoOEq FINAL FORMrISOLATED FORMoPEHr FIN
AL FORMsINITIAL FORMtSOLATED FORMsMEDIAL FORMsWITH SMALL MEEM ABOVEbdVrEHt FINAL FORMuINITIAL FORMv
SOLATED FORMuMEDIAL FORMoQAFr FINAL FORMsINITIAL FORMtSOLATED FORMsMEDIAL FORMsWITH DOT ABOVEbbBELO
Wbg AND NO DOTS ABOVExTHREE DOTS ABOVEoREHr FINAL FORMsISOLATED FORMsWITH DOT BELOWbg AND DOT ABOVE
xFOUR DOTS ABOVExHAMZA ABOVExINVERTED VxLOOPxRINGxSMALL ARABIC LETTER TAH AND TWO DOTSbdNOON ABOVEb
dVbe BELOWyTROKExTWO DOTS ABOVEbgVERTICALLY ABOVEpNOONt FINAL FORMuINITIAL FORMvSOLATED FORMuMEDIA
L FORMpOHINGYA YEHpREHs FINAL FORMtISOLATED FORMoSADr FINAL FORMsINITIAL FORMtSOLATED FORMsMEDIAL F
ORMsWITH THREE DOTS ABOVEbiBELOWyWO DOTS BELOWpEENs FINAL FORMtINITIAL FORMuSOLATED FORMtMEDIAL FOR
MtWITH DOT BELOW AND DOT ABOVEyEXTENDED ARABIC-INDIC DIGIT FOUR ABOVEyFOUR DOTS ABOVEyINVERTED VySM
ALL ARABIC LETTER TAH AND TWO DOTSyTHREE DOTS BELOWbo AND THREE DOTS ABOVEzWO DOTS VERTICALLY ABOVE
pHEENt FINAL FORMuINITIAL FORMvSOLATED FORMuMEDIAL FORMuWITH DOT BELOWpTRAIGHT WAWpUPERSCRIPT ALEFp
WASH KAFoTAHr FINAL FORMsINITIAL FORMtSOLATED FORMsMEDIAL FORMsWITH DOT BELOWxTHREE DOTS ABOVEbiBEL
OWyWO DOTS ABOVEpCHEHt FINAL FORMuINITIAL FORMvSOLATED FORMuMEDIAL FORMuWITH DOT ABOVEzSMALL VtEH
v FINAL FORMwINITIAL FORMxSOLATED FORMwMEDIAL FORMpEHr FINAL FORMsINITIAL FORMtSOLATED FORMsMARBUTA
z FINAL FORMbaGOALbaISOLATED FORMtEDIAL FORMsWITH RINGxSMALL TEH ABOVEbdVxTHREE DOTS ABOVE DOWNWARD
SrEHt FINAL FORMuINITIAL FORMvSOLATED FORMuMEDIAL FORMpHALs FINAL FORMtISOLATED FORMqEHs FINAL FORM
tINITIAL FORMuSOLATED FORMtMEDIAL FORMqIN YEHpTEHs FINAL FORMtINITIAL FORMuSOLATED FORMtMEDIAL FORM
tWITH SMALL VsEHu FINAL FORMvINITIAL FORMwSOLATED FORMvMEDIAL FORMoUp FINAL FORMqISOLATED FORMqWIT
H HAMZA ABOVEbg ISOLATED FORMpIGHUR KAZAKH KIRGHIZ ALEF MAKSURA INITIAL FORMbxMEDIAL FORMoVEq FINA
L FORMrISOLATED FORMqHr FINAL FORMsINITIAL FORMtSOLATED FORMsMEDIAL FORMoWAWr FINAL FORMsISOLATED F
ORMsWITH DOT ABOVEbbWITHINxEXTENDED ARABIC-INDIC DIGIT THREE ABOVEcaWO ABOVExHAMZA ABOVEbi FINAL FO
RMbjISOLATED FORMxRINGxTWO DOTS ABOVEoYEHr BARREEy FINAL FORMzISOLATED FORMzWITH EXTENDED ARABIC-IN
DIC DIGIT THREE ABOVEchWO ABOVEbeHAMZA ABOVEbp FINAL FORMbqISOLATED FORMsFINAL FORMsINITIAL FORMtSO
LATED FORMsMEDIAL FORMsWITH HAMZA ABOVEbi FINAL FORMbjINITIAL FORMbkSOLATED FORMbjMEDIAL FORMxSMAL
L VxTAILyHREE DOTS BELOWyWO DOTS BELOW AND DOT ABOVEbqHAMZA ABOVEbqSMALL NOON ABOVEpUq FINAL FORMrI
SOLATED FORMoZAHr FINAL FORMsINITIAL FORMtSOLATED FORMsMEDIAL FORMqINs FINAL FORMtISOLATED FORMtWIT
H INVERTED V ABOVEiIGATURE AIN WITH ALEF MAKSURA FINAL FORMbmISOLATED FORMzJEEM INITIAL FORMbfSOLAT
ED FORMbeWITH MEEM FINAL FORMboINITIAL FORMzMEEM INITIAL FORMbfSOLATED FORMbeWITH ALEF MAKSURA FINA
L FORMbjMEEM FINAL FORMboINITIAL FORMbjYEH FINAL FORMzYEH FINAL FORMbdISOLATED FORMrKBAR ISOLATED F
ORMrLAYHAA AS-SALAAMvE ISOLATED FORMvI AS-SALAAMbfTU WAS-SALAAMwM AS-SALAAMxAA AS-SALAAMsEF MAKSUR
A WITH SUPERSCRIPT ALEF FINAL FORMbzISOLATED FORMvWITH FATHATAN FINAL FORMbjISOLATED FORMsLAH ISOLA
TED FORMrZZA WA JALLqBEH WITH ALEF MAKSURA FINAL FORMbmISOLATED FORMzHAH INITIAL FORMbeSOLATED FORM
bdWITH YEH FINAL FORMbaEH INITIAL FORMbdMEDIAL FORMzJEEM INITIAL FORMbfSOLATED FORMzKHAH INITIAL FO
RMbfSOLATED FORMbeWITH YEH FINAL FORMzMEEM FINAL FORMbeINITIAL FORMbfSOLATED FORMbeMEDIAL FORMzNOO
N FINAL FORMzREH FINAL FORMzYEH FINAL FORMbdISOLATED FORMzZAIN FINAL FORMrISMILLAH AR-RAHMAN AR-RAH
EEMqDAD WITH ALEF MAKSURA FINAL FORMbmISOLATED FORMzHAH INITIAL FORMbeSOLATED FORMbdWITH ALEF MAKSU
RA FINAL FORMbiYEH FINAL FORMzJEEM INITIAL FORMbfSOLATED FORMzKHAH INITIAL FORMbfSOLATED FORMbeWIT
H MEEM FINAL FORMboINITIAL FORMzMEEM INITIAL FORMbfSOLATED FORMzREH FINAL FORMbdISOLATED FORMzYEH F
INAL FORMbdISOLATED FORMqFEH WITH ALEF MAKSURA FINAL FORMbmISOLATED FORMzHAH INITIAL FORMbeSOLATE
D FORMzJEEM INITIAL FORMbfSOLATED FORMzKHAH INITIAL FORMbfSOLATED FORMbeWITH MEEM FINAL FORMboINITI
AL FORMzMEEM INITIAL FORMbfSOLATED FORMbeWITH YEH FINAL FORMzYEH FINAL FORMbdISOLATED FORMqGHAIN WI
TH ALEF MAKSURA FINAL FORMboISOLATED FORMbbJEEM INITIAL FORMbhSOLATED FORMbbMEEM INITIAL FORMbhSOLA
TED FORMbgWITH ALEF MAKSURA FINAL FORMblMEEM FINAL FORMblYEH FINAL FORMbbYEH FINAL FORMbfISOLATED F
ORMqHAH WITH ALEF MAKSURA FINAL FORMbmISOLATED FORMzJEEM INITIAL FORMbfSOLATED FORMbeWITH YEH FINA
L FORMzMEEM INITIAL FORMbfSOLATED FORMbeWITH ALEF MAKSURA FINAL FORMbjYEH FINAL FORMzYEH FINAL FORM
bdISOLATED FORMrEH WITH ALEF MAKSURA ISOLATED FORMzJEEM INITIAL FORMbfSOLATED FORMzMEEM INITIAL FOR
MbfSOLATED FORMbeWITH JEEM INITIAL FORMbjMEEM INITIAL FORMzSUPERSCRIPT ALEF INITIAL FORMzYEH ISOLAT
ED FORMqJALLAJALALOUHOUrEEM WITH ALEF MAKSURA FINAL FORMbnISOLATED FORMbaHAH INITIAL FORMbfSOLATE
D FORMbeWITH ALEF MAKSURA FINAL FORMbjYEH FINAL FORMbaMEEM INITIAL FORMbgSOLATED FORMbfWITH ALEF MA
KSURA FINAL FORMbkHAH FINAL FORMboINITIAL FORMbkYEH FINAL FORMbaYEH FINAL FORMbeISOLATED FORMqKAF W
ITH ALEF FINAL FORMbeISOLATED FORMbeMAKSURA FINAL FORMbmISOLATED FORMzHAH INITIAL FORMbeSOLATED FOR
MzJEEM INITIAL FORMbfSOLATED FORMzKHAH INITIAL FORMbfSOLATED FORMzLAM FINAL FORMbdINITIAL FORMbeSOL
ATED FORMbdMEDIAL FORMzMEEM FINAL FORMbeINITIAL FORMbfSOLATED FORMbeMEDIAL FORMbeWITH MEEM FINAL FO
RMboINITIAL FORMbjYEH FINAL FORMzYEH FINAL FORMbdISOLATED FORMrHAH WITH ALEF MAKSURA FINAL FORMbnIS
OLATED FORMbaHAH ISOLATED FORMbaJEEM INITIAL FORMbgSOLATED FORMbaMEEM INITIAL FORMbgSOLATED FORMbaY
EH FINAL FORMbeISOLATED FORMqLAM WITH ALEF FINAL FORMbeISOLATED FORMbeMAKSURA FINAL FORMbmISOLATE
D FORMbeWITH HAMZA ABOVE FINAL FORMbvISOLATED FORMbpBELOW FINAL FORMbvISOLATED FORMbjMADDA ABOVE FI
NAL FORMbvISOLATED FORMzHAH INITIAL FORMbeSOLATED FORMbdWITH ALEF MAKSURA FINAL FORMbiMEEM FINAL FO
RMbnINITIAL FORMbiYEH FINAL FORMbaEH INITIAL FORMzJEEM INITIAL FORMbfSOLATED FORMbeWITH JEEM FINA
L FORMboINITIAL FORMbjMEEM FINAL FORMboINITIAL FORMbjYEH FINAL FORMzKHAH INITIAL FORMbfSOLATED FORM
beWITH MEEM FINAL FORMboINITIAL FORMzMEEM FINAL FORMbeINITIAL FORMbfSOLATED FORMbeMEDIAL FORMbeWIT
H HAH FINAL FORMbnINITIAL FORMbjYEH FINAL FORMzYEH FINAL FORMbdISOLATED FORMqMEEM WITH ALEF FINAL F
ORMbfMAKSURA ISOLATED FORMbaHAH INITIAL FORMbfSOLATED FORMbeWITH JEEM INITIAL FORMbjMEEM INITIAL FO
RMbjYEH FINAL FORMbaJEEM INITIAL FORMbgSOLATED FORMbfWITH HAH INITIAL FORMbkKHAH INITIAL FORMbkMEE
M INITIAL FORMbkYEH FINAL FORMbaKHAH INITIAL FORMbgSOLATED FORMbfWITH JEEM INITIAL FORMbkMEEM INITI
AL FORMbkYEH FINAL FORMbaMEEM FINAL FORMbfINITIAL FORMbgSOLATED FORMbfWITH YEH FINAL FORMbaYEH ISOL
ATED FORMrOHAMMAD ISOLATED FORMqNOON WITH ALEF MAKSURA FINAL FORMbnISOLATED FORMbaHAH INITIAL FORMb
fSOLATED FORMbeWITH ALEF MAKSURA FINAL FORMbjMEEM INITIAL FORMbjYEH FINAL FORMbbEH INITIAL FORMbeME
DIAL FORMbaJEEM INITIAL FORMbgSOLATED FORMbfWITH ALEF MAKSURA FINAL FORMbkHAH FINAL FORMboINITIAL F
ORMbkMEEM FINAL FORMbpINITIAL FORMbkYEH FINAL FORMbaKHAH INITIAL FORMbgSOLATED FORMbaMEEM FINAL FOR
MbfINITIAL FORMbgSOLATED FORMbfMEDIAL FORMbfWITH ALEF MAKSURA FINAL FORMbkYEH FINAL FORMbaNOON FINA
L FORMbaREH FINAL FORMbaYEH FINAL FORMbeISOLATED FORMbaZAIN FINAL FORMqQAF WITH ALEF MAKSURA FINA
L FORMbmISOLATED FORMzHAH INITIAL FORMbeSOLATED FORMzMEEM INITIAL FORMbfSOLATED FORMbeWITH HAH FINA
L FORMbnINITIAL FORMbjMEEM FINAL FORMbjYEH FINAL FORMzYEH FINAL FORMbdISOLATED FORMsLA USED AS KORA
NIC STOP SIGN ISOLATED FORMrUDDISA SIRRAHqRADI ALLAAHU ANHbgAAbgUMbiAAbhNNAsHIMAHU ALLAAHyM ALLAAHs
SOUL ISOLATED FORMrEH WITH SUPERSCRIPT ALEF ISOLATED FORMqSAD WITH ALEF MAKSURA FINAL FORMbmISOLATE
D FORMzHAH INITIAL FORMbeSOLATED FORMbdWITH HAH FINAL FORMbmINITIAL FORMbiYEH FINAL FORMzKHAH INITI
AL FORMzMEEM INITIAL FORMbfSOLATED FORMbeWITH MEEM FINAL FORMboINITIAL FORMzREH FINAL FORMbdISOLATE
D FORMzYEH FINAL FORMbdISOLATED FORMsLAAMUHU ALAYNAAuM ISOLATED FORMtLA ISOLATED FORMwUSED AS KORAN
IC STOP SIGN ISOLATED FORMvLLAAHU ALAYHI WA-AALIHyHOU ALAYHE WASALLAMzU ALAYHI WAAALIHEE WA-SALLAMr
EEN WITH ALEF MAKSURA FINAL FORMbnISOLATED FORMbaHAH INITIAL FORMbfSOLATED FORMbeMEDIAL FORMbeWIT
H JEEM INITIAL FORMbbEH INITIAL FORMbeMEDIAL FORMbaJEEM INITIAL FORMbgSOLATED FORMbfMEDIAL FORMbfWI
TH ALEF MAKSURA FINAL FORMbkHAH INITIAL FORMbaKHAH INITIAL FORMbgSOLATED FORMbfMEDIAL FORMbfWITH AL
EF MAKSURA FINAL FORMbkYEH FINAL FORMbaMEEM INITIAL FORMbgSOLATED FORMbfMEDIAL FORMbfWITH HAH FINA
L FORMboINITIAL FORMbkJEEM INITIAL FORMbkMEEM FINAL FORMbpINITIAL FORMbaREH FINAL FORMbeISOLATED FO
RMbaYEH FINAL FORMbeISOLATED FORMrHADDA WITH DAMMA ISOLATED FORMbiMEDIAL FORMbhTAN ISOLATED FORMbcF
ATHA ISOLATED FORMbiMEDIAL FORMbcKASRA ISOLATED FORMbiMEDIAL FORMbhTAN ISOLATED FORMbcSUPERSCRIPT A
LEF ISOLATED FORMsEEN WITH ALEF MAKSURA FINAL FORMboISOLATED FORMbbHAH FINAL FORMbfINITIAL FORMbgSO
LATED FORMbfMEDIAL FORMbfWITH MEEM FINAL FORMbpINITIAL FORMbkYEH FINAL FORMbcEH INITIAL FORMbfMEDIA
L FORMbbJEEM FINAL FORMbgINITIAL FORMbhSOLATED FORMbgMEDIAL FORMbgWITH YEH FINAL FORMbbKHAH FINAL F
ORMbgINITIAL FORMbhSOLATED FORMbgMEDIAL FORMbbMEEM FINAL FORMbgINITIAL FORMbhSOLATED FORMbgMEDIAL F
ORMbgWITH KHAH FINAL FORMbqINITIAL FORMblMEEM FINAL FORMbqINITIAL FORMbbREH FINAL FORMbfISOLATED FO
RMbbYEH FINAL FORMbfISOLATED FORMrUBHAANAHU WA TAAALAAqTABAARAKA WA-TAAALAAsH WITH ALEF MAKSURA FIN
AL FORMbmISOLATED FORMzHAH INITIAL FORMbeSOLATED FORMzMEEM INITIAL FORMbfSOLATED FORMbeMEDIAL FORMb
eWITH HAH FINAL FORMbnINITIAL FORMbjMEEM INITIAL FORMbjYEH FINAL FORMzYEH FINAL FORMbdISOLATED FORM
rEH WITH ALEF MAKSURA FINAL FORMbmISOLATED FORMzHAH INITIAL FORMbeSOLATED FORMbdWITH JEEM FINAL FOR
MbnINITIAL FORMbiMEEM INITIAL FORMbaEH INITIAL FORMbdMEDIAL FORMzJEEM INITIAL FORMbfSOLATED FORMbeW
ITH ALEF MAKSURA FINAL FORMbjMEEM INITIAL FORMbjYEH FINAL FORMzKHAH INITIAL FORMbfSOLATED FORMbeWIT
H ALEF MAKSURA FINAL FORMbjMEEM INITIAL FORMbjYEH FINAL FORMzMEEM FINAL FORMbeINITIAL FORMbfSOLATE
D FORMbeMEDIAL FORMbeWITH ALEF MAKSURA FINAL FORMbjHAH INITIAL FORMbjJEEM INITIAL FORMbjKHAH INITIA
L FORMbjYEH FINAL FORMzNOON FINAL FORMzREH FINAL FORMzYEH FINAL FORMbdISOLATED FORMzZAIN FINAL FORM
rHAL WITH SUPERSCRIPT ALEF ISOLATED FORMsEH WITH ALEF MAKSURA FINAL FORMbnISOLATED FORMbaHEH MEDIA
L FORMbaJEEM ISOLATED FORMbaMEEM FINAL FORMbfINITIAL FORMbgSOLATED FORMbfMEDIAL FORMbaNOON FINAL FO
RMbaREH FINAL FORMbaYEH FINAL FORMbeISOLATED FORMbaZAIN FINAL FORMqUIGHUR KIRGHIZ YEH WITH HAMZA AB
OVE WITH ALEF MAKSURA FINAL FORMcsINITIAL FORMctSOLATED FORMqWASALLAM ISOLATED FORMqYEH WITH ALEF M
AKSURA FINAL FORMbmISOLATED FORMzHAH INITIAL FORMbeSOLATED FORMbdWITH YEH FINAL FORMbbMZA ABOVE WIT
H AE FINAL FORMbtISOLATED FORMbrLEF FINAL FORMbvISOLATED FORMbvMAKSURA FINAL FORMcdISOLATED FORMbq
E FINAL FORMbsINITIAL FORMbtSOLATED FORMbqHAH INITIAL FORMbvSOLATED FORMbrEH INITIAL FORMbuMEDIAL F
ORMbqJEEM INITIAL FORMbwSOLATED FORMbqKHAH INITIAL FORMbqMEEM FINAL FORMbvINITIAL FORMbwSOLATED FOR
MbvMEDIAL FORMbqNOON FINAL FORMbqOE FINAL FORMbtISOLATED FORMbqREH FINAL FORMbqU FINAL FORMbsISOLAT
ED FORMbqWAW FINAL FORMbuISOLATED FORMbqYEH FINAL FORMbuISOLATED FORMbrU FINAL FORMbtISOLATED FORMb
qZAIN FINAL FORMbaEH INITIAL FORMbdMEDIAL FORMzJEEM INITIAL FORMbfSOLATED FORMbeWITH YEH FINAL FORM
zKHAH INITIAL FORMbfSOLATED FORMzMEEM FINAL FORMbeINITIAL FORMbfSOLATED FORMbeMEDIAL FORMbeWITH MEE
M FINAL FORMboINITIAL FORMbjYEH FINAL FORMzNOON FINAL FORMzREH FINAL FORMzYEH FINAL FORMbdISOLATE
D FORMzZAIN FINAL FORMqZAH WITH MEEM INITIAL FORMbfSOLATED FORMbeMEDIAL FORMhMADDA WAAJIBmH ABOVEjR
K NOON GHUNNAmSIDEWAYS NOON GHUNNAjTHEMATICAL AINvLEFuBEHuDADwLvOTLESS BEHbcFEHbcNOONbcQAFwUBLE-STR
UCK AINbiBEHbiDADbkLbiFEHbiGHAINbiHAHbiJEEMbiKHAHbiLAMbiMEEMbiNOONbiQAFbiREHbiSADbjEENbjHEENbiTAHbj
EHbjHALbkEHbiWAWbiYEHbiZAHbkINuFEHuGHAINuHAHuINITIAL AINbcBEHbcDADbcFEHbcGHAINbcHAHbdEHbcJEEMbcKAFb
dHAHbcLAMbcMEEMbcNOONbcQAFbcSADbdEENbdHEENbcTEHbdHEHbcYEHuJEEMuKAFvHAHuLAMvOOPED AINbcLEFbbBEHbbDAD
bdLbbFEHbbGHAINbbHAHbcEHbbJEEMbbKHAHbbLAMbbMEEMbbNOONbbQAFbbREHbbSADbcEENbcHEENbbTAHbcEHbcHALbdEHbb
WAWbbYEHbbZAHbdINuMEEMuNOONuOPERATOR HAH WITH DALbdMEEM WITH HAH WITH TATWEELuQAFuREHuSADvEENvHEENv
TRETCHED AINbeBEHbeDADbfOTLESS BEHbmFEHbeFEHbeGHAINbeHAHbfEHbeJEEMbeKAFbfHAHbeMEEMbeNOONbeQAFbeSADb
fEENbfHEENbeTAHbfEHbfHEHbeYEHbeZAHuTAHwILED AINbbDADbcOTLESS NOONbjQAFbbGHAINbbHAHbbJEEMbbKHAHbbLAM
bbNOONbbQAFbbSADbcEENbcHEENbbYEHvEHvHALwEHuWAWuYEHuZAHwINhNUMBER MARK ABOVEoSIGNhOPEN DAMMATANmFATH
ATANmKASRATANhPERCENT SIGNiIASTRE MARK ABOVEiLACE OF SAJDAHiOETIC VERSE SIGNjUND MARK ABOVEhQUESTIO
N MARKhRAISED ROUND DOTjYiEVERSED DAMMAiIGHT ARROWHEAD ABOVEbc WITH DOTxBELOWiOUNDED HIGH STOP WIT
H FILLED CENTREhSEMICOLONiHADDAn ISOLATED FORMoMEDIAL FORMiIGN ALAYHE ASSALLAMmMISRAmRADI ALLAHOU A
NHUoHMATULLAH ALAYHEmSAFHAoLLALLAHOU ALAYHE WASSALLAMoMVAToNAHnINDHI AMPERSANDtPOSTPOSITION MENmTAK
HALLUSiMALL DAMMAnFARSI YEHpTHAnHIGH AINsDOTLESS HEAD OF KHAHsFARSI YEHtOOTNOTE MARKERsJEEMsLAM ALE
FtIGATURE ALEF WITH LAM WITH YEHbbQAF WITH LAM WITH ALEF MAKSURAbbSAD WITH LAM WITH ALEF MAKSURAsMA
DDAtEEM INITIAL FORMySOLATED FORMsNOONw WITH KASRAsQAFsROUNDED ZEROsSADtEENtIGN SAFHAsTAHtHREE DOTS
sUPRIGHT RECTANGULAR ZEROsWAWtORD AL-JUZyN-NISFyR-RUByS-SAJDAyTH-THALATHAxQIFxSAHzKTAxWAQFAsYEHv BA
RREE WITH TWO DOTS BELOWsZAHuINnKASRAnLOW MEEMrNOON WITH KASRArSEENrWAWsORD IMAALAxSHMAAMwTASHEELnW
AWnYEHiTART OF RUB EL HIZBiUBSCRIPT ALEFjKUNm BELOWnISOLATED FORMnMEDIAL FORMjPERSCRIPT ALEF MOKHAS
SASiYMBOL DOT ABOVEsBELOWqUBLE VERTICAL BAR BELOWoFOUR DOTS ABOVEyBELOWoRINGoSMALL TAH ABOVEyBELOWo
THREE DOTS ABOVEzBELOWzPOINTING DOWNWARDS ABOVEbsBELOWpWO DOTS ABOVExBELOWxVERTICALLY ABOVEbiBELOWo
WASLA ABOVEhTAIL FRAGMENTjTWEELo WITH FATHATAN ABOVEuOVERSTRUCK HAMZAbfWAWuTWO DOTS BELOWiHOUSAND
S SEPARATORiONE LOOP ABOVErBELOWmONE DOT ABOVEuBELOWmTWO DOTS ABOVEvBELOWiRIPLE DOT PUNCTUATION MAR
KiURNED DAMMA BELOWhVERTICAL TAILiOWEL SIGN DOT BELOWsINVERTED SMALL V ABOVEsSMALL V ABOVEhWAVY HAM
ZA BELOWhZWARAKAYg-INDIC CUBE ROOTnDIGIT EIGHTtFIVEuOURtNINEtONEtSEVENuIXtTHREEuWOtZEROnFOURTH ROOT
nPER MILLE SIGNrTEN THOUSAND SIGNcCcIEScMENIAN ABBREVIATION MARKkPOSTROPHEjCAPITAL LETTER AYByBENyC
AzHAbaEHzOyDAyECHzHzTyFEHyGHADzIMyHOyINIyJAzHEHyKEHbaNyLIWNyMENyNOWyOHyPEHzIWRyRAzEHySEHzHAyTIWNzOy
VEWzOyXEHyYIbaWNyZAzHEkOMMAjDRAM SIGNjEMPHASIS MARKkXCLAMATION MARKjFULL STOPjHYPHENjMODIFIER LETTE
R LEFT HALF RINGjQUESTION MARKjSMALL LETTER AYBwBENwCAxHAyEHxOwDAwECHxHxTwFEHwGHADxIMwHOwINIwJAxHEH
wKEHyNwLIWNwMENwNOWwOHwPEHxIWRwRAxEHwSEHxHAwTIWNxOxURNED AYBwVEWxOwXEHwYIy WITH STROKEyWNwZAxHEqIGA
TURE ECH YIWNyMEN ECHbcINIbcNOWbcXEHyVEW NOWcROW POINTING DOWNWARDS THEN CURVING LEFTWARDSbmRIGHTWA
RDSpRIGHTWARDS THEN CURVING DOWNWARDSbnSOUTH WESTbnUPWARDSpUPWARDS THEN NORTH WESTfHEAD-SHAPED POIN
TERcTICULATED LORRYeST PALETTEbSCENDING NODEdIA SYMBOLcSERTIONcTERISKi OPERATORhMdONISHED FACEdRAEA
eONOMICAL SYMBOL FOR URANUScYMPTOTICALLY EQUAL TObTHLETIC SHOEcOM SYMBOLbUBERGINEcSTRAL SIGNcTO RIC
KSHAWeMATED TELLER MACHINEfOBILEbVESTAN ABBREVIATION MARKiLETTER AqArNrOqErEqNqOpBEqHEpCEpDEqHEpEqE
pFEpGEqGEqHEpHEqMEpIqIpJEpKEpLEpMEpNEqGErVErYEqNEqYEpOqOpPEpREpSEqHErYEqSHEpTEqHEqTEpUqUpVEpXEqVEqY
EpYEqYEpZEqHEcOCADObXE"

end TermAudit.CharacterName
