/-!
# `TermAudit.Text.CharacterName.NamesOfC`: names of characters, first letters `C`

The names come in order. Before each one stands, as a number with the digits `a` to `z`, how many
code points it has in common with the one before. Line breaks count for nothing.
-/

set_option autoImplicit false

namespace TermAudit.CharacterName

/-- The names that begin with `C`. -/
def namesOfC : String :=
  "aCACTUScDA UNAdUCEUScLENDARdL ME HANDcMERAg WITH FLASHdPINGcNdADIAN SYLLABICS AuAvIvYuIvVILIK Bu
NuTHAPASCAN MbeSuYtBEAVER DENE LbfRuIBLE-CREE YuLACKFOOT AbdEbdIbdKAbeEbeIbeObdNAbeEbeIbeObdObdSbdW
beAbeEbeIbeOtCuAvAwIvRRIER CHAbdEbeEbdIbdObdUbbDEEbdNE GEEbeTAL SbcIbcLAbdEbeEbdIbdObdUbcZAbdEbeEbd
IbdObdUbbEEbbGAbdAbcEbdEbcHAbdEbeEbdIbdObdUbcIbcObcUbcWAbdUbbHbcEEbcIbcWAbdEbeEbdIbdObdUbbIbcNITIA
L ZbbJAbcEbdEbcIbcJAbdEbeEbdIbdObdUbcObcUbcWAbbKHAbdEbeEbdIbdObdUbcKbdAbdEbeEbdIbdObdUbbLAbcEbdEbcH
AbdEbeEbdIbdObdUbcIbcObcUbbMAbcEbdEbcIbcObcUbbNAbcEbdEbcGbcIbcObcUbbPbcAbcEbdEbcIbcObcUbbRAbcEbdEbc
IbcObcUbbSAbcEbdEbcHbdAbdEbeEbdIbdObdUbcIbcObcUbbTHAbdEbeEbdIbdObdUbcLAbdEbeEbdHAbeEbfEbeIbeObeUbdI
bdObdUbcSAbdEbeEbdIbdObdUbcTAbdEbeEbdIbdObdSAbeEbfEbeIbeObeUbdUbbWAbcEbdEbcIbcObcUbbYAbcEbdEbcIbcOb
cUbbZbcAbcEbdEbcIbcObcUuEuHI SIGNuIvIuOvOuWAwAvEvIwIvOwOtEuASTERN WuNtFuAvAwIuEuIvIvNAL ACUTEzBOTTO
M HALF RINGzDOUBLE ACUTEbgSHORT VERTICAL STROKESbbWN TACKzGRAVEzMIDDLE DOTzPLUSzRAISED DOTbaIGHT HA
LF RINGbbNGzSHORT HORIZONTAL STROKEbaMALL RINGzTOP HALF RINGuOvOuULL STOPuWAAtGLOTTAL STOPtHKuYPHEN
tIuIuNtKuAvAwIvYuEuIvIuOvOuWvAwAwYvEvIwIvOwOtLuAvAwIvYuEuHvAwAvIwIvOwOuIvIuOvOuWAwAvEvIwIvOwOtMuAvA
wIvYuEvDIAL LbaRuHuIvIuOvOwSE-CREE SKuWAwAvEvIwIvOwOtNu-CREE THEbcIbdIuAvAwIvSKAPI CWAAbbKWAAbbMWAA
bbNWAAbbS-WbcCWAbcKWbeAbcPWAbcTWAbcWAAbbTWAAbbWAAbcOObbYWAAvTTILIK HAbeAbdIbeIbdObeObcSHRAbgAbfIbgI
bfObgOvYuEuGvAwAxIwIvIwIvOwOuHuIvIuNGwAxAwIxIwOxOuOvOvYuUNAVIK HbcAbdAbcEbcIbdIbcObdOyUT HuWAwAvEvI
wIvOwOtOuJIBWAY CbbKbbMbbNbcWIbeIbdObeObbPbbSbcHbbTuNuOuYtPuAvAwIvYuEuIvIuOvOvYuWAwAvEvIwIvOwOwYtQu
AvAwIvIuIvIuOvOtRu-CREE REbbWEuAvAwIvYuEuIvIuOvOuWAwAvEEvIwIvOwOtSuAvAwIvYwISI HAbbEbbIbbObcObaJIbb
UbcUbaMbaSHAbcEbcIbcObdObcWEbaTHbaYIuEuHvAwAwYvEvIwIvOwOwYvWAxAwEwIxIwOxOxYuIvIuOvOvUTH-SLAVEY KAHb
hEHbhIHbhOHvYuPAvEvIvOuWvAwAvEvIwIvOwOtTuAvAwIvYuEuHv-CREE THbdAbeAbdEbdIbeIbdObeOvAwAvEvIwIvOwOvWA
xAwEuIvIuLHAwEwIwOxOwWEuOvOuTAvEvHwAxAwEwIwOxOwWEvIvOuWAwAvEvIwIvOwOuYAvEvIvOtWAvAvYuEvST-CREE CWAb
gAbfEbfIbgIbfObgObdFWAAbdKWAbgAbfEbfIbgIbfObgObdLbeAbfAbeEbeObfObeWAbgAbfEbfIbgIbfObgObdMbeWAbgAbfE
bfIbgIbfObgObdNWAbgAbfEbdPbeWAbgAbfEbfIbgIbfObgObdRbeAbeEbeIbeObeWAAbdSHWAbhAbgEbgIbhIbgObhObeWAbgA
bfEbfIbgIbfObgObdTHWAAbeWAbgAbfEbfIbgIbfObgObdWAbfAbeEbeIbfIbeObfObdYbeWAbgAbfEbfIbgIbfObgOxERN WuI
vIuOvOwDS-CREE FINAL THbeTHbgAbgEbgIbgObgWAbiAbhEEbhIbiIbhObiOtYu-CREE COObaKOObaLOObaMOObaNOObaOOb
aPOObbWAAbaSOObaTOObaWbaYOOuAvAwIvYuEuIvIuOvOvYuWAwAvEvIwIvOwOdCELg CHARACTERhTAGgLATION XfRdDLEeYd
NED FOODdOEcPITULUMdRICORNcR SLIDINGdD FILE BOXfINDEXk DIVIDERSdE OFeTf INSERTION POINTdIAN LETTE
R Ap2oBoC-18q39oDp2oEp2oGp2oIpIoKp2oLpDq2oMpBq2q3q4oNpDpGpNoOoPp2oQoRpRoSpHq2pSpTq2oTpTq2oUpUqUr2r3
rUoXdONeUSEL HORSEdP STREAMEReENTRY SAWdRIAGE RETURNeOTcSTLEcTd FACEi WITH TEARS OF JOYoWRY SMILEcU
CASIAN ALBANIAN CITATION MARKtLETTER ALTbbORbaBETbaCARbcYNbbHAbdTbcIbcOYbbYAWbdYbaDATbbYANbbZAYbcYA
YbaEBbbYNbaFAMbaGHEYSbbIMbaHEYTbaINYAbbRBbbWNbaJAYNbbHOXbaKARbbIWbaLANbbYITbaMAQbaNOWCbaONbaPENbbIW
RbaQARbcYbaRATbaSEYKbbHAbdKbcOYbaTASbbIWRbbYAYbaVEYZbaXEYNbaYAYDbbOWDbaZARLbbHAbcILdTION SIGNbCHbED
I SIGNeLLAcLTIC CROSScNT SIGNeRE LINE SYMBOLgLINE LOW LINElOVERLINEcRESbGJbHAINSeRdKMA AU MARKhDAND
AiIGIT EIGHTnFIVEoOURnNINEnONEnSEVENoIXnTHREEoWOnZEROiOUBLE DANDAhLETTER AAoBAApHAAoCAApHAAoDAApDAA
qHAApHAAoEoGAApHAAoHAAoIoJAApHAAoKAApHAAoLAApHAAoMAAoNAApGAApNAApYAAoPAApHAAoRAAoSAAoTAApHAApTAAqHA
AoUoVAAoWAAoYAApYAAhMAAYYAAhO MARKhQUESTION MARKhSECTION MARKiIGN ANUSVARAmCANDRABINDUmVISARGAhVIRA
MAiOWEL SIGN AtAtItUsEtIsItIsOtIsUtUdM CONSONANT SIGN FINAL HbaMbaNGuLAuRAuWAuYAfDIGIT EIGHTlFIVEmO
URlNINElONElSEVENmIXlTHREEmWOlZEROfLETTER AnImBAnBAnHAmCHAoHAmDAnDAnHAmEmFINAL CHsGsKsLsNtGsPsRsSSs
TsYmGAnHAmHAmImJAnHAmKAnHAmLAmMAnUEmNAnGAoUEnHAoJAoUEnUEmOmPAnHAnPAmRAmSAnSAmTAnHAmUmVAmYAfPUNCTUAT
ION DANDAsOUBLE DANDArSPIRALrTRIPLE DANDAfVOWEL SIGN AArIrUqEIqIrIqOrEqUrEdRACTER TABULATIONu SETvW
ITH JUSTIFICATIONlIEeT WITH DOWNWARDS TRENDlUPWARDS TRENDy AND YEN SIGNcECK MARKfER BOARDn FILLdERI
NG MEGAPHONEeSE WEDGEdQUERED FLAGdROKEE LETTER AqDArErIrLArOrUrVqEqGArErIrOrUrVqHArErIrNArOrUrVqIqK
AqLArErIrOrUrVqMArErIrOrUrVqNAsHrErIrOrUrVqOqQUAsEsIsOsUsVqSrArErIrOrUrVqTArErIrLAsEsIsOsUsVrSAsEsI
sOsUsVqUqVqWArErIrOrUrVqYArErIrOrUrVjSMALL LETTER AwDAxExIxLAxOxUxVwEwGAxExIxOxUxVwHAxExIxNAxOxUxVw
IwKAwLAxExIxOxUxVwMAxExIxOxUxVwNAyHxExIxOxUxVwOwQUAyEyIyOyUyVwSxAxExIxOxUxVwTAxExIxLAyEyIyOyUyVxSAy
EyIyOyUyVwUwVwWAxExIxOxUxVwYAxExIxOxUxVeRIESfY BLOSSOMdSTNUTcI RHOdCKENdLDfREN CROSSINGdPMUNKdRONcO
COLATE BARdPSTICKSdRASMIAN LETTER ALEPHtYINsBETHsCURLED WAWsDALETHsGIMELsHEuTHsKAPHsLAMEDHsMEMsNUNs
PEsRESHsSAMEKHtHINtMALL ALEPHsTAWsWAWsYODHsZAYINlNUMBER FOURsONEv HUNDREDsTENtHREEtWENTYuOcRISTMA
S TREEcURCHbINEMAcRCLE DIVIDED BY HORIZONTAL BAR AND TOP HALF DIVIDED BY VERTICAL BARhWITH ALL BU
T UPPER LEFT QUADRANT BLACKmHORIZONTAL BARmLEFT HALF BLACKnOWER HALF BLACKmRIGHT HALF BLACKmSMALL C
IRCLE TO THE RIGHTnUPERIMPOSED XmTWO HORIZONTAL STROKES TO THE RIGHTmUPPER HALF BLACKsRIGHT QUADRAN
T BLACKmVERTICAL FILLgD ANTICLOCKWISE ARROWv-ROTATED DIVISION SIGNjSTERISK OPERATORiBOLD XjULLETi
C WITH OVERLAID BACKSLASHjCjDjROSS FORMEEu WITH FOUR DOTSbaTWO DOTSoPOMMEEnING LANESiDASHjIGIT EIGH
ToFIVEpOURoNINEoONEoSEVENpIXoTHREEpWOoZEROkVISION SIGNsLASHjOLLAR SIGN WITH OVERLAID BACKSLASHkT OP
ERATORiEQUALSiGREATER-THANiHANGUL CHIEUCHw AqIEUCu ApHIEUHu ApIEUNGu AvUpKHIEUKHw AqIYEOKv ApMIEUM
u ApNIEUNu ApPHIEUPHw AqIEUPu ApRIEULu ApSIOSt ApTHIEUTHw AqIKEUTv AjEAVY WHITE RIGHTWARDS ARROWjOR
IZONTAL BAR WITH NOTCHjUMAN FIGUREiIDEOGRAPH ACCEPTtDVANTAGEtLLIANCEtTTENTIONsCENTREtONGRATULATIONu
PYuRRECTsEARTHtIGHTtNTERPRISEtXCELLENTsFEMALEtINANCIALuREuVEtOURsHAVEtIGHsITEMsKINDERGARTENtOTOsLAB
ORtEFTtOWsMALEtEDICINEuTALtOONsNAMEtIGHTuNEsONEsPRINTsQUESTIONsRELIGIONuSOURCEvTtIGHTsSCHOOLtECRETu
VENtIXtOCIETYtPECIALtTOCKuUDYtUITABLEuNuPERVISEsTENtHREEtWOsWATERtOODjNFORMATION SOURCEjTALIC LATI
N CAPITAL LETTER CbkRiKATAKANA ArErHAsEsIsOsUrIrKAsEsIsOsUrMAsEsIsOsUrNAsEsIsOsUrOrRAsEsIsOsUrSAsEs
IsOsUrTAsEsIsOsUrUrWAsEsIsOrYAsOsUjOREAN CHARACTER CHAMKOzJUEUIiLATIN CAPITAL LETTER AbdBbdCbdDbdEb
dFbdGbdHbdIbdJbdKbdLbdMbdNbdObdPbdQbdRbdSbdTbdUbdVbdWbdXbdYbdZoSMALL LETTER AbbBbbCbbDbbEbbFbbGbbHb
bIbbJbbKbbLbbMbbNbbObbPbbQbbRbbSbbTbbUbbVbbWbbXbbYbbZjESS-THANiMINUSjULTIPLICATION SIGN WITH CIRCUM
FLEX ACCENTiNUMBER EIGHTEENuY ON BLACK SQUAREqLEVENpFIFTEENtYu ON BLACK SQUAREqORTYu EIGHTvFIVEwOUR
vNINEvON BLACK SQUARExEvSEVENwIXvTHREEwWOrURTEENpNINETEENpSEVENTEENvY ON BLACK SQUAREqIXTEENtY ON B
LACK SQUAREpTENs ON BLACK SQUAREqHIRTEENuYv EIGHTwFIVExOURwNINEwON BLACK SQUAREyEwSEVENxIXwTHREExWO
qWELVEsNTYv EIGHTwFIVExOURwNINEwON BLACK SQUAREyEwSEVENxIXwTHREExWOiOPEN CENTRE EIGHT POINTED STARi
PARALLELjERPENDICULARjLUSjOSTAL MARKiREVERSE SOLIDUSjING OPERATORiSQUAREiTIMESjRIANGLEq DOWNiVERTIC
AL BARiWHITE BULLEToSTARjZiXiZERO WITH SLASHeULATION FUNCTIONfMFLEX ACCENTfS TENTcTYSCAPEj AT DUSKb
JK COMPATIBILITY IDEOGRAPH-2F800bg1bg2bg3bg4bg5bg6bg7bg8bg9bgAbgBbgCbgDbgEbgFbf10bg1bg2bg3bg4bg5bg6
bg7bg8bg9bgAbgBbgCbgDbgEbgFbf20bg1bg2bg3bg4bg5bg6bg7bg8bg9bgAbgBbgCbgDbgEbgFbf30bg1bg2bg3bg4bg5bg6b
g7bg8bg9bgAbgBbgCbgDbgEbgFbf40bg1bg2bg3bg4bg5bg6bg7bg8bg9bgAbgBbgCbgDbgEbgFbf50bg1bg2bg3bg4bg5bg6bg
7bg8bg9bgAbgBbgCbgDbgEbgFbf60bg1bg2bg3bg4bg5bg6bg7bg8bg9bgAbgBbgCbgDbgEbgFbf70bg1bg2bg3bg4bg5bg6bg7
bg8bg9bgAbgBbgCbgDbgEbgFbf80bg1bg2bg3bg4bg5bg6bg7bg8bg9bgAbgBbgCbgDbgEbgFbf90bg1bg2bg3bg4bg5bg6bg7b
g8bg9bgAbgBbgCbgDbgEbgFbfA0bg1bg2bg3bg4bg5bg6bg7bg8bg9bgAbgBbgCbgDbgEbgFbfB0bg1bg2bg3bg4bg5bg6bg7bg
8bg9bgAbgBbgCbgDbgEbgFbfC0bg1bg2bg3bg4bg5bg6bg7bg8bg9bgAbgBbgCbgDbgEbgFbfD0bg1bg2bg3bg4bg5bg6bg7bg8
bg9bgAbgBbgCbgDbgEbgFbfE0bg1bg2bg3bg4bg5bg6bg7bg8bg9bgAbgBbgCbgDbgEbgFbfF0bg1bg2bg3bg4bg5bg6bg7bg8b
g9bgAbgBbgCbgDbgEbgFbe900bg1bg2bg3bg4bg5bg6bg7bg8bg9bgAbgBbgCbgDbgEbgFbf10bg1bg2bg3bg4bg5bg6bg7bg8b
g9bgAbgBbgCbgDbgEbgFbf20bg1bg2bg3bg4bg5bg6bg7bg8bg9bgAbgBbgCbgDbgEbgFbf30bg1bg2bg3bg4bg5bg6bg7bg8bg
9bgAbgBbgCbgDbgEbgFbf40bg1bg2bg3bg4bg5bg6bg7bg8bg9bgAbgBbgCbgDbgEbgFbf50bg1bg2bg3bg4bg5bg6bg7bg8bg9
bgAbgBbgCbgDbgEbgFbf60bg1bg2bg3bg4bg5bg6bg7bg8bg9bgAbgBbgCbgDbgEbgFbf70bg1bg2bg3bg4bg5bg6bg7bg8bg9b
gAbgBbgCbgDbgEbgFbf80bg1bg2bg3bg4bg5bg6bg7bg8bg9bgAbgBbgCbgDbgEbgFbf90bg1bg2bg3bg4bg5bg6bg7bg8bg9bg
AbgBbgCbgDbgEbgFbfA0bg1bg2bg3bg4bg5bg6bg7bg8bg9bgAbgBbgCbgDbgEbgFbfB0bg1bg2bg3bg4bg5bg6bg7bg8bg9bgA
bgBbgCbgDbgEbgFbfC0bg1bg2bg3bg4bg5bg6bg7bg8bg9bgAbgBbgCbgDbgEbgFbfD0bg1bg2bg3bg4bg5bg6bg7bg8bg9bgAb
gBbgCbgDbgEbgFbfE0bg1bg2bg3bg4bg5bg6bg7bg8bg9bgAbgBbgCbgDbgEbgFbfF0bg1bg2bg3bg4bg5bg6bg7bg8bg9bgAbg
BbgCbgDbgEbgFbeA00bg1bg2bg3bg4bg5bg6bg7bg8bg9bgAbgBbgCbgDbgEbgFbf10bg1bg2bg3bg4bg5bg6bg7bg8bg9bgAbg
BbgCbgDbcF900bf1bf2bf3bf4bf5bf6bf7bf8bf9bfAbfBbfCbfDbfEbfFbe10bf1bf2bf3bf4bf5bf6bf7bf8bf9bfAbfBbfCb
fDbfEbfFbe20bf1bf2bf3bf4bf5bf6bf7bf8bf9bfAbfBbfCbfDbfEbfFbe30bf1bf2bf3bf4bf5bf6bf7bf8bf9bfAbfBbfCbf
DbfEbfFbe40bf1bf2bf3bf4bf5bf6bf7bf8bf9bfAbfBbfCbfDbfEbfFbe50bf1bf2bf3bf4bf5bf6bf7bf8bf9bfAbfBbfCbfD
bfEbfFbe60bf1bf2bf3bf4bf5bf6bf7bf8bf9bfAbfBbfCbfDbfEbfFbe70bf1bf2bf3bf4bf5bf6bf7bf8bf9bfAbfBbfCbfDb
fEbfFbe80bf1bf2bf3bf4bf5bf6bf7bf8bf9bfAbfBbfCbfDbfEbfFbe90bf1bf2bf3bf4bf5bf6bf7bf8bf9bfAbfBbfCbfDbf
EbfFbeA0bf1bf2bf3bf4bf5bf6bf7bf8bf9bfAbfBbfCbfDbfEbfFbeB0bf1bf2bf3bf4bf5bf6bf7bf8bf9bfAbfBbfCbfDbfE
bfFbeC0bf1bf2bf3bf4bf5bf6bf7bf8bf9bfAbfBbfCbfDbfEbfFbeD0bf1bf2bf3bf4bf5bf6bf7bf8bf9bfAbfBbfCbfDbfEb
fFbeE0bf1bf2bf3bf4bf5bf6bf7bf8bf9bfAbfBbfCbfDbfEbfFbeF0bf1bf2bf3bf4bf5bf6bf7bf8bf9bfAbfBbfCbfDbfEbf
FbdA00bf1bf2bf3bf4bf5bf6bf7bf8bf9bfAbfBbfCbfDbfEbfFbe10bf1bf2bf3bf4bf5bf6bf7bf8bf9bfAbfBbfCbfDbfEbf
Fbe20bf1bf2bf3bf4bf5bf6bf7bf8bf9bfAbfBbfCbfDbfEbfFbe30bf1bf2bf3bf4bf5bf6bf7bf8bf9bfAbfBbfCbfDbfEbfF
be40bf1bf2bf3bf4bf5bf6bf7bf8bf9bfAbfBbfCbfDbfEbfFbe50bf1bf2bf3bf4bf5bf6bf7bf8bf9bfAbfBbfCbfDbfEbfFb
e60bf1bf2bf3bf4bf5bf6bf7bf8bf9bfAbfBbfCbfDbe70bf1bf2bf3bf4bf5bf6bf7bf8bf9bfAbfBbfCbfDbfEbfFbe80bf1b
f2bf3bf4bf5bf6bf7bf8bf9bfAbfBbfCbfDbfEbfFbe90bf1bf2bf3bf4bf5bf6bf7bf8bf9bfAbfBbfCbfDbfEbfFbeA0bf1bf
2bf3bf4bf5bf6bf7bf8bf9bfAbfBbfCbfDbfEbfFbeB0bf1bf2bf3bf4bf5bf6bf7bf8bf9bfAbfBbfCbfDbfEbfFbeC0bf1bf2
bf3bf4bf5bf6bf7bf8bf9bfAbfBbfCbfDbfEbfFbeD0bf1bf2bf3bf4bf5bf6bf7bf8bf9eRADICAL BAMBOOnLUEnOLT OF CL
OTHoNEoXnRUSH ONEsTWOmC-SIMPLIFIED BIRDzCARTzDRAGONzEATbaVENzFISHbaLYbaROGzGATEbaOLDzHORSEzLEAFbaON
GzSALTbaEEbaHELLbaILKbaPEECHzTANNED LEATHERbaOOTHbaURTLEzWINDnHOKEnITYoVILIANnLIFFoOTHESnOWmDEATHnI
VINATIONnOGmEAT ONEqTHREErWOnWEnYEmFIREnOOTmGHOSTnRASS ONEsTHREEtWOmHANDnEADpRT ONEsTWOnORNmJ-SIMPL
IFIED DRAGONzEVENzTOOTHbaURTLEnADEmKNIFE ONEsTWOmLAME FOURrONErTHREEsWOnONG ONErTWOmMEAToSHnOONoRTA
RoTHERoUND ONEsTWOmNET FOURqONEqTHREErWOmOLDmPAW ONEqTWOnERSONmRAINoMoPnEPEATmSEALoCOND ONEtTHREEuW
OnHEEPnILKoMPLIFIED HALF TREE TRUNKyORNxWALKyHEATxYELLOWnMALL ONEsTWOnNAKEoOUT ONEsTWOnPIRIT ONEtTW
OnUNmTABLEnHREADnIGERnURTLEmWALK ONErTWOoTER ONEsTWOnEST ONErTWOeSTROKE BXGlDlHmGmPnWGmXWGmZnGnTnWo
GnZoPoZpGlNlPmDmGmZlQlSmGmPmTmWnGnZmZnWGnZlTmNlWGlXGbLAMSHELL MOBILE PHONEdPPER BOARDfING HANDS SIG
NdSSICAL BUILDINGcEAR SCREEN SYMBOLcINKING BEER MUGSjGLASSESdPBOARDcOCK FACE EIGHT OCLOCKq-THIRTYmL
EVEN OCLOCKr-THIRTYlFIVE OCLOCKp-THIRTYmOUR OCLOCKp-THIRTYlNINE OCLOCKp-THIRTYlONE OCLOCKo-THIRTYlS
EVEN OCLOCKq-THIRTYmIX OCLOCKo-THIRTYlTEN OCLOCKo-THIRTYmHREE OCLOCKq-THIRTYmWELVE OCLOCKr-THIRTYn
O OCLOCKo-THIRTYfWISE CLOSED CIRCLE ARROWlONTOUR INTEGRALkDOWNWARDS AND UPWARDS OPEN CIRCLE ARROWSk
GAPPED CIRCLE ARROWkINTEGRALkOPEN CIRCLE ARROWkRIGHT AND LEFT SEMICIRCLE ARROWSpWARDS AND LEFTWARD
S OPEN CIRCLE ARROWScb WITH CIRCLED ONE OVERLAYkTOP SEMICIRCLE ARROWlRIANGLE-HEADED OPEN CIRCLE ARR
OWdSE UPfD BOOKhINTERSECTION WITH SERIFShLOCK WITH KEYhMAILBOX WITH LOWERED FLAGuRAISED FLAGhSUBSET
n OR EQUAL TOjPERSETp OR EQUAL TOhUMBRELLAiNION WITH SERIFSy AND SMASH PRODUCTdUDf WITH LIGHTNINGlR
AINlSNOWlTORNADOdWN FACEbOATcCKROACHeTAIL GLASSdONUTcFFINcINcLLISION SYMBOLdONf EQUALSgSIGNcMBININ
G ACUTE ACCENTw BELOWqTONE MARKp-GRAVE-ACUTEqMACRONlLMOST EQUAL TO ABOVEbaBELOWlNNUITY SYMBOLmTICLO
CKWISE ARROW ABOVEyRING OVERLAYlSTERISK ABOVEtBELOWkBINDU BELOWlREVEp BELOWp-MACRONmIDGE ABOVErBELO
WkCANDRABINDUmRONp BELOWlEDILLAlIRCUMFLEX ACCENTbb BELOWlLOCKWISE ARROW ABOVEuRING OVERLAYlOMMA ABO
VEv RIGHTqBELOWmNJOINING MACRONbb BELOWlYRILLIC DASIA PNEUMATAtHUNDRED MILLIONS SIGNbbTHOUSANDS SIG
NtKAVYKAtLETTER AbaBEbbIG YUSbaCHEbaDEbbJERVbaEFbbLbbMbbNbbRbbSbc-TEbaFITAbaGHEbaHAbcRD SIGNbaIbbEb
bOTIFIED AbjBIG YUSbjEbaKAbaLITTLE YUSbaMONOGRAPH UKbaObbMEGAbaPEbaSHAbcCHAbbOFT SIGNbaTEbbSEbaUbbK
RAINIAN IEbaVEbaYATbbERUbbIbbUbaZEbbHEtMILLIONS SIGNtPALATALIZATIONvYEROKuOKRYTIEuSILI PNEUMATAtTE
N MILLIONS SIGNuHOUSAND MILLIONS SIGNuITLOy LEFT HALFzRIGHT HALFtVZMETkDELETION MARKmVANAGARI DIGI
T EIGHTbbFIVEbcOURbbNINEbbONEbbSEVENbcIXbbTHREEbcWObbZEROvLETTER AbcKAbcNAbcPAbcRAbcUbcVIvSIGN AVAG
RAHAlIAERESISt BELOWt-RINGlOT ABOVEt LEFTuRIGHToBELOWt LEFTnTED ACUTE ACCENTrGRAVE ACCENTmUBLE ACUT
E ACCENTrBREVEw BELOWrCIRCUMFLEX ABOVErGRAVE ACCENTrINVERTED BREVEbf BELOWrLOW LINErMACRONx BELOWrO
PEN MARK BELOWsVERLINErPARENTHESES ABOVEsLUS SIGN ABOVEbbBELOWrRIGHTWARDS ARROW BELOWtNG BELOWrTILD
Ew LEFT HALFxRIGHT HALFrVERTICAL LINE ABOVEbfBELOWbaSTROKE OVERLAYqD CIRCUMFLEX ACCENTmWN TACK BELO
WoWARDS ARROWkENCLOSING CIRCLEba BACKSLASHuDIAMONDuKEYCAPuSCREENvQUAREuUPWARD POINTING TRIANGLElQUA
LS SIGN BELOWkFERMATAlOUR DOTS ABOVEkGLAGOLITIC LETTER AZUbcBIG YUSbdUKYbcCHRIVIbcDJERVIbdOBRObcFIT
AbdRITUbcGLAGOLIbcHERUbcIbdNITIAL IZHEbdOTATED BIG YUSbkSMALL YUSbdZHEbcKAKObcLJUDIJEbcMYSLITEbcNAS
HIbcONUbcPOKOJIbcRITSIbcSHAbeTAbdLOVObdMALL YUSbcTSIbdVRIDObcUKUbcVEDEbcYATIbdERIbfUbeSTUbdObdUbcZE
MLJAbdHIVETElRANTHA DIGIT FIVEzOURyONEySIXyTHREEzWOyZEROsLETTER AzKAzNAzPAzVInPHEME JOINERnVE ACCEN
Tw BELOWqTONE MARKp-ACUTE-GRAVEqMACRONmEEK DIALYTIKA TONOSqKORONISqMUSICAL PENTASEMEyTETRASEMEzRISE
MEqPERISPOMENIqYPOGEGRAMMENIkHOMOTHETIC ABOVEmOK ABOVEmRNkINFINITYmVERTED BREVEy BELOWvIDGE BELOWtD
OUBLE ARCH ABOVEbfBELOWlS BELOWkKATAKANA-HIRAGANA SEMI-VOICED SOUND MARKbcVOICED SOUND MARKmVYKA AB
OVE LEFTxRIGHTkLATIN LETTER SMALL CAPITAL GblLblMblNblRqSMALL LETTER Abe WITH DIAERESISbeEbeLPHAbeO
beVbdBbeETAbdCbe CEDILLAbdDbdEbeSHbeTHbdFbeLATTENED OPEN A ABOVEbdGbdHbdIbeNSULAR DblGblRblTbdKbdLb
e WITH DOUBLE MIDDLE TILDEbeONG SbdMbdNbdObe WITH DIAERESISbkLIGHT CENTRALIZATION STROKEbdPbdRbe BE
LOWbfROTUNDAbdSbeCHWAbdTbeURNED W BELOWbdUbe WITH DIAERESISbkLIGHT CENTRALIZATION STROKEbdVbdWbe BE
LOWbdXbdZlEFT ANGLE ABOVEvBELOWqRROW ABOVEvBELOWuHEAD ABOVEzBELOWpHALF RING ABOVEzBELOWrRPOON ABOVE
pPARENTHESIS ABOVE LEFTbbBELOW LEFTpRIGHT ARROW ABOVEbbBELOWpTACK BELOWoWARDS ARROW OVERLAYuHARPOO
N WITH BARB DOWNWARDSlIGATURE LEFT HALFbc BELOWtRIGHT HALFbd BELOWnHT CENTRALIZATION STROKE BELOWlO
NG DOUBLE SOLIDUS OVERLAYpSOLIDUS OVERLAYqTROKE OVERLAYpVERTICAL LINE OVERLAYmW LINEkMACRONq BELOWr
LEFT HALFba BELOWrRIGHT HALFbb BELOWq-ACUTErBREVErGRAVElINUS SIGN BELOWkNOT TILDE ABOVElUMBER SIG
N ABOVEkOGONEKq ABOVElLD PERMIC LETTER ANbcDOIbcNENOEbcSIIbcZATAlPEN MARK BELOWlVERLINEkPALATALIZE
D HOOK BELOWmRENTHESES ABOVEwBELOWwOVERLAYlLUS SIGN ABOVEuBELOWkRETROFLEX HOOK BELOWmVERSE SOLIDU
S OVERLAYrD COMMA ABOVElIGHT ARROW ABOVEwBELOWvHEAD ABOVEbbND DOWN ARROWHEAD BELOWbeUP ARROWHEAD BE
LOWbaBELOWqHALF RING ABOVEbaBELOWsRPOON ABOVEqPARENTHESIS ABOVE RIGHTbcBELOW RIGHTqTACK BELOWpWARD
S HARPOON WITH BARB DOWNWARDSmNG ABOVEpBELOWpOVERLAYkSEAGULL BELOWlHORT SOLIDUS OVERLAYrTROKE OVERL
AYqVERTICAL LINE OVERLAYlNAKE BELOWlQUARE BELOWsRACKETS ABOVElTRONG CENTRALIZATION STROKE BELOWlUSP
ENSION MARKkTHREE DOTS ABOVElILDEp BELOWqLEFT HALF BELOWqOVERLAYqRIGHT HALF BELOWlRIPLE ACUTE ACCEN
TrDOTrUNDERDOTlURNED COMMA ABOVEkUP TACK ABOVEsBELOWmWARDS ARROW BELOWlR ABOVElS ABOVEkVERTICAL LIN
E ABOVEyBELOWtTILDEkWIDE BRIDGE ABOVEpINVERTED BRIDGE BELOWmGGLY LINE BELOWkX ABOVEmBELOWl-X BELOWk
ZIGZAG ABOVErBELOWdETdMAeERCIAL ATlMINUS SIGNdPASSeLEMENTeOSITION SYMBOLeRESSIONcNFETTI BALLeOUNDE
D FACEeUSED FACEdGRUENT WITH DOT ABOVEdICAL TAPERdJUNCTIONdSTRUCTION SIGNnWORKERdTAINS AS MEMBERmNO
RMAL SUBGROUPbb OR EQUAL TOjWITH LONG HORIZONTAL STROKEoOVERBARoVERTICAL BAR AT END OF HORIZONTAL S
TROKEeINUOUS UNDERLINE SYMBOLeOUR INTEGRALeROL KNOBSiSEQUENCE INTRODUCERdVENIENCE STOREcOKED RICEeI
EfNGcPTIC CAPITAL LETTER AKHMIMIC KHEIxLFAwBOHAIRIC KHEIwCROSSED SHEIyYPTOGRAMMIC EIEbkGANGIAbkNIbk
SHEIwDALDAxEIxIALECT-P ALEFbgHORIbgKAPAbgNIwEIEwFEIxIwGAMMAyNGIAwHATExORIwIAUDAwKAPAxHEIyIxSIwL-SHA
PED HAxAULAwMIwNIwOxLD COPTIC AINbhDJAbhESHbhGANGIAbhHAbjTbiEIbiORIbhOOUbhSHEIbjIMAbaNUBIAN NGIbiYI
bhSHIMAbhWAUxOUwPIxSIwROwSAMPIxHEIyIMAxIMAxOUwTAUxHETHEwUAwVIDAwZATAiOMBINING NI ABOVErSPIRITUS ASP
ERbaLENIShEPACT DIGIT EIGHTtFIVEuOURtNINEtONEtSEVENuIXtTHREEuWOnNUMBER EIGHT HUNDREDzYuFIFTYwVE HUN
DREDvORTYwUR HUNDREDuNINE HUNDREDyTYuONE HUNDREDuSEVEN HUNDREDzTYvIX HUNDREDxTYuTENvHIRTYwREE HUNDR
EDvWENTYwO HUNDREDnTHOUSANDS MARKhFRACTION ONE HALFiULL STOPhMORPHOLOGICAL DIVIDERhOLD NUBIAN DIREC
T QUESTION MARKsFULL STOPsINDIRECT QUESTION MARKsVERSE DIVIDERhSMALL LETTER AKHMIMIC KHEIvLFAuBOHAI
RIC KHEIuCROSSED SHEIwYPTOGRAMMIC EIEbiGANGIAbiNIbiSHEIuDALDAvEIvIALECT-P ALEFbeHORIbeKAPAbeNIuEIEu
FEIvIuGAMMAwNGIAuHATEvORIuIAUDAuKAPAvHEIwIvSIuL-SHAPED HAvAULAuMIuNIuOvLD COPTIC AINbfDJAbfESHbfGAN
GIAbfHAbhTbgEIbgORIbfOOUbfSHEIbhIMAyNUBIAN NGIbgYIbfSHIMAbfWAUvOUuPIvSIuROuSAMPIvHEIwIMAvIMAvOUuTAU
vHETHEuUAuVIDAuZATAiYMBOL KAIpHI ROoMI ROoPI ROoSHIMA SIMApTAUROSoTAU ROdYLEFT SYMBOLeRIGHT SIGNcRA
LdNISH VERSE DIVIDERdRESPONDS TOcUCH AND LAMPdNTERBOREhSINKfING ROD TENS DIGIT EIGHTyFIVEzOURyNINEy
ONEySEVENzIXyTHREEzWOnUNIT DIGIT EIGHTyFIVEzOURyNINEyONEySEVENzIXyTHREEzWOdPLE WITH HEARTcWd FACEbR
cABcEDIT CARDdSCENT MOONcICKETh BAT AND BALLcOCODILEdISSANTdSS MARKgOF JERUSALEMjLORRAINEgPATTY WIT
H LEFT CROSSBARrRIGHT CROSSBARhOMMEEm WITH HALF-CIRCLE BELOWfED FLAGSiNEGATIVE SQUARED LATIN CAPITA
L LETTER PiSWORDSfING LANESdWNcUTCHdZEIRO SIGNcYING CAT FACEhFACEdSTAL BALLbSIbUBE ROOTcCUMBERcNEIF
ORM NUMERIC SIGN EIGHT ASHbdDISHbdGESH2bdSHAR2bdUbe VARIANT FORMbdVARIANT FORM USSUbu3yLAMITE FIFTY
bgORTYbfONE THIRDbfTWO THIRDSxFIVE ASHbf TENUbcBAN2bg VARIANT FORMbdURUbcDISHbcGESH2bgUbcSHAR2bgUbd
IXTHS DISHbcUbd VARIANT FORMyOUR ASHbf TENUbcBAN2bg VARIANT FORMbdURUbcDISHbcGESH2bgUbcSHAR2bgUbcUb
d VARIANT FORMbcVARIANT FORM LIMMUbu AbvBbu4xNIGIDAESHbdMINzNE ASHbcDISHbcGESH2bcSHAR2bcUbd VARIAN
T FORMbcVARIANT FORM ILIMMUbv Abv3bv4xOLD ASSYRIAN ONE QUARTERboSIXTHyNE BAN2bcURUbbEIGHTH ASHbcSHE
3bbGESH2bfUbbHALF GURbbQUARTER ASHbjGURbbSHARUbbTHIRD DISHbhVARIANT FORM AxSEVEN ASHbdDISHbdGESH2bd
SHAR2bdUbe VARIANT FORMbdVARIANT FORM IMIN AbvBbu3yHAR2 TIMES GAL PLUS DISHbsMINyIX ASHbe TENUbbDIS
HbbGESH2bbSHAR2bbUbc VARIANT FORMbbVARIANT FORM ASH9xTHREE ASHbg TENUbdBAN2beURUbh VARIANT FORMbdDI
SHbdGESH2bhUbdSHAR2bi VARIANT FORMbhUbi VARIANT FORMbdVARIANT FORM ESH16bt21yWO ASHbe TENUbbBAN2bcU
RUbbESHE3bbGESH2bfUbbSHAR2bfUbbTHIRDS DISHbiVARIANT FORM AkPUNCTUATION SIGN DIAGONAL COLONbkQUADCOL
ONbkTRICOLONbbOLD ASSYRIAN WORD DIVIDERbbVERTICAL COLONkSIGN Aq TIMES AxBADxGAN2 TENUxHAxIGIxLAGA
R GUNUxMUSHxSAGq2qBr GUNUsTIMES ASH2yDUN3 GUNUyGALbaN2 TENUyHAyIGI GUNUzMINyLAGAByNUNbb TENUySHESHb
aU2yU PLUS U PLUS Ur2s TIMES AzBALAGzGAN2 TENUzME PLUS ENzSHA3zTAK4qDr TIMES ESH2qKr TIMES ERIN2ySH
ITA PLUS GISHqLr TIMES ALyDIM2yGISHyHAyKAD3zIySHEyUSHrANrEPHqMARt TIMES KUGbaSHEqNr OVER ANsPLUS NA
GA OPPOSING AN PLUS NAGAbcSQUAREDsTHREE TIMESrSHEqPINqRADt TIMES KURrKABqSAL2rHs KABA TENUtOVER AS
H OVER ASHbk CROSSING ASH OVER ASH OVER ASHbcTUG2 OVER TUG2 TUG2 OVER TUG2 PAPtZIDA TENUs2sGABpBArD
s TIMES DISH TENUrG3rHAR2v TIMES AB2bcNIbcZArLs OVER BALsAGrRsA2qIr TIMES AyGARyIGI GUNUqUr CROSSIN
G BUsOVER BU ABbaTIMES NA2baUNrLUGu OVER BULUGrRs2pDAr TIMES TAK4rGs KISIM5 TIMES A PLUS MASHbhMARb
gBALAGbhIbgGAbi PLUS MASHbhIbiR2bhUDbgHAbgIRbi PLUS LUbgKAKbgLAbhUbi PLUS MASH2biMbgNEbgPAP PLUS PA
PbgSIbgTAK4bgU2 PLUS GIR2boMASHbhSHtTIMES KURs3rMrRsA3t4qIrBrMs TIMES IGIzSHEzU U Us2t TIMES UDrN
s KASKAL U GUNU DISHrSHt PLUS SHUqUr GUNUsOVER DUsSHESHIGrBs TIMES ESH2zSHEs2rGs TIMES ANSHEbaSHb
c AT LEFTzDINbaUNzERIN2zGAbaIbbR2 GUNUbbSHzHAbaIzIGI GUNUzKASKALbaURbbSHU2bf PLUS KASKALzLAK-020bbM
bc TIMES KURbaUH PLUS GISHzMASHbaESbaIzNIzPIzSHEbaI GUNUsUDrHrNs3t GUNUy GUNUs4rR2pEq OVER E NUN OV
ER NUNrTIMES PAPq2r TIMES A PLUS HA PLUS DAyGARyKURyMIyPAPySALzHEyUqDINqGIRqLqNr CROSSING ENsOPPOSI
NG ENsSQUAREDsTIMES GAN2bc TENUyMEqRENrIN2u XqSH2t CROSSING ESH2qZENt SHESHIG TIMES ASHbiHIbiIGI GU
NUbiLAbkLbiMEbkSbiSUuTIMES Abb PLUS LALbk TIMES LALbbNbaBADbaDUN3 GUNUbj GUNUbaGUDbaHAbc GUNUbaIG
I GUNUbaKASKALbg SQUAREDbbU3baLAbcL TIMES LALbbIbbUbaSHEbbUbaU2bbDpGAr GUNUr2s OVER GA2tTIMES A PLU
S DA PLUS HAbgHAbgIGIbaB2 TENU PLUS TABbaNbb PLUS KAK PLUS AbaSHbc2bd PLUS GALzBADbbHAR2bbR PLUS RA
baURbc PLUS RAzDAbaIbbM GUNUbdTIMES SHEbaUBbbG TIMES IGI GUNUbjKASKALzELbb PLUS LAbaNbb TIMES GAN
2 TENUbaRENzGAbbN2 TENUbbRbc PLUS DIbiNEbaIbb4bc PLUS AbbR2 PLUS SUzHA PLUS AbhLU PLUS ESH2bbLbc PL
US LAbaI PLUS LIbaUB2zIGI GUNUbaSH PLUS HU PLUS ASHzKAKbbSKALbaIDbc PLUS LALbaU3 PLUS ANbbSHU2 PLU
S KASKALzLAbbMbc TIMES KURbaUHzME PLUS ENbaIbaUSHzNEbb PLUS E2bhGIbaUNbc OVER NUNzPAzSALbbRbaHEbc P
LUS TURbbIDbcMbaUMzTAK4zUbaDbb PLUS DUzZIZ2rBAt CROSSING GABAuROTATED NINETY DEGREESrDs OVER GAD GA
R OVER GARrLs GAD OVER GAD GAR OVER GARsAMrMrNs2t CROSSING GAN2uOVER GAN2uTENUrRs3rSHANqE22rSHTIN
w TIMES KURbdUqIr CROSSING GIsTIMES EyUr4s CROSSING GI4tOVER GI4rDIMrGrR2t GUNUs3t TIMES A PLUS IGI
baGAN2 TENUbaIGIbaLU PLUS IGIbaPArSALsHt CROSSING GISHuTENUvIMES BADbaGISH CROSSING GISHbaTAK4qUr C
ROSSING GUr2s GUNUtTIMES IGI GUNUzKAKbc TIMES IGI GUNUzNUNzSAL PLUS TUG2rDs OVER GUD LUGALtPLUS GIS
H TIMES TAK4tTIMES A PLUS KURzKURrLrMs TIMES SHErRs7sUNtSHpHAr GUNUsTENUw GUNUrLqIr TIMES ASHbb OVE
R HI TIMES ASHbb2yBADyDISHyGADyKINyNUNySHEyUqUrB2t TIMES ANbaHALbaKASKALbaLISHbaUDrL2rSHpIq AqBqDIM
t OVER IDIM BURbeSQUAREDqGrIs DIBtGUNUtOVER IGI SHIR OVER SHIR UD OVER UDtRIqLr TIMES GAN2 TENUr2qM
r CROSSING IMsOPPOSING IMsSQUAREDsTIMES TAK4rINqNqRqSHpKAr TIMES AzDba PLUS KU3zNSHEzSH2bb3yBADbaLA
GbaRzIzUyERIN2zSH2yGAbaLbaN2 TENUbaRbb PLUS SHA3 PLUS AzIbaR2baSHbc CROSSING GISHbdPLUS SARzUbaDbaR
7yHI TIMES ASH2yIGIzMyKAbaKzIbaDyLIzUbaMyMEba PLUS DUbgGIbgTEzIba PLUS NUNUZyNEzUNyPAzIyRUySAbaRzHA
baEbaIDbaUbbLzIGzUHURyTARzUyUz U Uz2zDzMUM TIMES PAzRba2zSHyZIr2s CROSSING KA2rBrD2s3s4s5t OVER KAD
5rKs TIMES IGI GUNUrLs CROSSING KALtTIMES BADrM2s4rP ELAMITErSKALv LAGAB TIMES U OVER LAGAB TIMES U
wOVER KASKAL LAGAB TIMES U OVER LAGAB TIMES UqESH2qIr TIMES BADyUzDrDrNrSALsHsIM5v OVER KISIM5qUr O
VER HI TIMES ASH2 KU OVER HI TIMES ASH2r3r4s VARIANT FORMr7rLs GUNUrNrRs OPPOSING KURrSHU2qWU318pLA
rGABu SQUAREDvTIMES Abc PLUS DA PLUS HAbiGARbiLALbcLbcNbcSH ZIDA TENUbbBADbcIbbDARbbENbbGAbdRbcIbcU
Dbe PLUS GUDbbHAbdLbcI TIMES NUNbbIGI GUNUbcMbd PLUS HAbjLUbbKIbdNbcU3bdLbe PLUS HI PLUS AbbLAGABbc
ISHbcUbdLbbMEbd PLUS ENbcUSHbbNEbbSHE PLUS SUMbdITA PLUS GISH PLUS ERIN2brTENUbdU2bf PLUS SHU2bcUMb
bTAGbdK4bcE PLUS A PLUS SU PLUS NAbbUbc PLUS AbiU PLUS Ubc2 PLUS ASHbcDbcSHbbZU OVER ZUtRu GUNUz OV
ER LAGAR GUNU SHEvTIMES SHEbe PLUS SUMrHSHUrK-003u21v5u30u50v1u62u79 OVER LAK-079 GUNUu80v1 OVER LA
K-081u92t130u42t210v9u20v5v8u38u65v6t343v7v8u83v4u90t441v9w TIMES GUbdIGIbdPAP PLUS LU3bmPAP PLUS L
U3bdU2 PLUS BAu50v7u70u83u90v2v3v5t550t608u17w TIMES ASHbdBADbdDUN3 GUNU GUNUbdKU3bdLAbdTARbeEbdU2b
eDbeRUDAu36u48w TIMES DUBbdGAbdIGIbg GUNUbdNIbdPAP PLUS PAP PLUS LU3bdSHESH PLUS KIbdUDbeRUDAt724u4
9rLs TIMES LALrMs TIMES KURbc PLUS RUqIrLrMMU2rSHqUr TIMES BADr2s CROSSING LU2tGUNU TIMES ASHtOPPOS
ING LU2tSHESHIGba TIMES BADuQUAREDtTENUuIMES ALzBADzDISHzESH2bd PLUS LALbeTENUzGAN2 TENUzHALbaI TIM
ES BADzIMzKAD2bc3bd PLUS ASHbaIzLA PLUS ASHbbGABzME PLUS ENzNEbaUzPAPbc PLUS PAP PLUS LU3zSHUbaI PL
US ASHbbK2 PLUS BUzTAK4baUG2r3rGALu OPPOSING LUGALwVER LUGALvSHESHIGrHrLrMs OVER LUMbb GAR OVER GAR
pMAr GUNUsTIMES TAK4r2rHrRrSHt2qErSsHqIr PLUS ZA7rNqUr OVER MUrGs GUNUrNSUBrRGU2rSHt CROSSING MUSHu
OVER MUSHbd TIMES A PLUS NAbkGAbkKAKuTIMES AbaKURbaZAt3u GUNUvTIMES Abc PLUS DIbbDIbbZApNAr2r4rGA
t INVERTEDuOPPOSING NAGAuTIMES SHU TENUtRrMs NUTILLUs2qEr SHESHIGsTIMES AyUDqIr TIMES Er2rMs TIME
S GAN2 TENUbbR PLUS GAN2 TENUrNs9sDA2v TIMES ANbdSHbf PLUS ASHbcBALbcDIM GUNUbcGIbeSHbdUDbeLbcHIbcK
ESH2bcLAK-050bcMASHbdE PLUS GAN2 TENUbcNEbdUNbcPAP PLUS PAPbcSHEbf PLUS A ANbmSHbo PLUS ASHbcUbd PL
US Ubd2 PLUS ASHbdRUDAbdSHrSAGqUr11t OVER NU11 BUR OVER BURuROTATED NINETY DEGREESuTENUrNs CROSSIN
G NUNbf LAGAR OVER LAGARtLAGAR TIMES GARbfMASHbfSALbi OVER NUN LAGAR TIMES SALbfUSHtOVER NUNtTENUsU
Zu AB2 TIMES ASHGABbfBIbfDUGbfGUDbfIGI GUNUbfKAD3bfLAbfNEbfSILA3bfU2vKISIM5 TIMES BIbk UpPArDrNrPqE
SH2u ASTERISKqIr CROSSING PIsTIMES AzByBIzUyEyIzByUz2rR2sIGu OPPOSING PIRIGvTIMES KALbbUDbbZApRArBq
IqUpSArGs GUNUx TIMES HAtNUTILLUtOVER SAGtTIMES AzDUbbBzENzHAzIGI GUNUzKAKbaURzLUMzMIzNUNzSALbaHE A
T LEFTbbIDzTABbbK4zU2baBbaMbaRbaSHrLs LAGAB TIMES ASH2rNGA2rRqHAs3t TIMES AbaBADbaGISHbaNEbaSHU2baT
URbaUbb PLUS As6t TENUsB6sR2rEs HUtOVER SHEbb GAD OVER GAD GAR OVER GARbcTAB OVER TAB GAR OVER GARt
PLUS HUB2yNAM2ySARsG9sNsSHu2uLAMrIDt TIMES AbaIMsMt TIMES AbaBALbbULUGbaDINbaGARbaIGIbd GUNUbaKUSHU
2baLULbaMUGbaSALsNIGsRt OVER SHIR BUR OVER BURuTENUsTArUs OVER INVERTED SHUs2t PLUS DUG TIMES NIzE
2 TIMES ANsBURqIr GUNUsTIMES TAK4rGs4t OVER SIG4 SHU2rK2rLA3qUr OVER SUrDs2rHURrMsASHrRs9pTAr ASTER
ISKsGUNUsTIMES HIyMIrBs OVER TAB NI OVER NI DISH OVER DISHtSQUAREDrGs TIMES BIzGUDzSHEbbUzTUG2zUDrK
4t PLUS SAGrRqEr GUNUqIr TENUr2rLrRs OVER TIRbb GAD OVER GAD GAR OVER GARtTIMES TAK4qUrG2rKrMs TIME
S GAN2 TENUzTHREE DISHrRs OVER TUR ZA OVER ZApUq GUDrOVER U PA OVER PA GAR OVER GARySUR OVER SURy
U REVERSED OVER U REVERSEDrUs Uq2qBqDr GUNUsKUSHU2sSHESHIGz TIMES BADsTIMES BADyMIyU PLUS U PLUS Ub
n GUNUrUGqMr TIMES LAGAByMEba PLUS DAySHA3yUrBINrUMt TIMES KASKALbaPAqNr GUNUqRr CROSSING URsSHESHI
Gr2s INVERTEDtTIMES A PLUS HAbgNAbaLzHAzNUNzU2bb PLUS ASHbhBIbaDr4rIs3rUs TIMES AbaSHGABzBARzDARA3b
aUNzGAbbLbbN2 TENUbbRbaUzHAzIGIbaMbaSHzKIzLAK-668baU3bbMzMINzPAzSHEbaIG4zTUzU PLUS GUDbaDbaRUDAsDA
u TIMES UqSHs TIMES AzKUbbRzTAK4s2sUMXsXqTUKIqZ3s TIMES KASKALrUpZAr SQUARED TIMES KURsTENUr7rGrMXq
E2qIr OVER ZIr3rBs KABA TENUrGrZ2qUr OVER ZU PLUS SARr5s TIMES AzTHREE DISH TENUrBURrMcP ON BLACK S
QUAREeWITH STRAWdCAKEdIDOcRLING STONEeY BRACKET EXTENSIONgLOGICAL ANDoORiOPdRENCY EXCHANGEjSIGNeY A
ND RICEdVED STEM PARAGRAPH SIGN ORNAMENTcSTARDeOMScT OF MEATbYCLONEcLINDRICITYcPRIOT SYLLABLE ArErI
rJAsOrKAsEsIsOsUrLAsEsIsOsUrMAsEsIsOsUrNAsEsIsOsUrOrPAsEsIsOsUrRAsEsIsOsUrSAsEsIsOsUrTAsEsIsOsUrUrW
AsEsIsOrXAsErZAsOeO-MINOAN SIGN CM001w2w4w5w6w7w8w9v10w1w2xBw3w5w7w9v21w3w4w5w6w7w8w9v30w3w4w5w6w7w
8w9v40w1w4w6w7w9v50w1w2w3w4w5w6w8w9v60w1w2w3w4w6w7w8w9v70w1w2w3w4w5xBw6w8w9v80w1w2w3w4w5w6w7w8w9v90
w1w2w4w5w6w7w8w9u100w1w2w3w4w5w7w8w9v10w2w4u301w2cRILLIC CAPITAL LETTER Az WITH BREVEbfDIAERESISzBK
HASIAN CHEbl WITH DESCENDERbiDZEbiHAzLEUT KAyBARRED Obg WITH DIAERESISbaSHKIR KAzEzIG YUSbaNOCULA
R OzLENDED YUSzROAD OMEGAzYELORUSSIAN-UKRAINIAN IyCCHEzHEbb WITH DESCENDERbiIAERESISbhVERTICAL STRO
KEzLOSED LITTLE YUSzROSSED OyDCHEzEzJEbbRVzOUBLE MONOCULAR ObfOzWEzZEbbLObaHEbaWEbaZEbbHEyEz WITH D
IAERESISzFzLba WITH DESCENDERbgHOOKbgMIDDLE HOOKbgTAILzMba WITH TAILzNba WITH DESCENDERbgHOOKbgLEF
T HOOKbgMIDDLE HOOKbgTAILzRba WITH TICKzSba WITH DESCENDERyFITAyGHEbb WITH DESCENDERbhMIDDLE HOOKbh
STROKEbn AND HOOKbhUPTURNzJEyHAba WITH DESCENDERbgHOOKbgSTROKEbaRD SIGNzWEyIz WITH DIAERESISbfGRAVE
bfMACRONzEba WITH BREVEbgGRAVEzObaTAbbIFIED AbhBIG YUSbhCLOSED LITTLE YUSbhEbhLITTLE YUSbhYATzZHITS
Abf WITH DOUBLE GRAVE ACCENTyJEyKAba WITH DESCENDERbgHOOKbgSTROKEbgVERTICAL STROKEzHAKASSIAN CHEzJE
zOMI DEbeJEbeZJEbdLJEbdNJEbdSJEbdTJEbdZJEbaPPAzSIyLHAzITTLE YUSzJEyMONOCULAR ObcGRAPH UKyNEUTRAL YE
RzJEyOz WITH DIAERESISzMEGAbd WITH TITLOzTyPEba WITH DESCENDERbgMIDDLE HOOKzSIyQAyREVERSED DZEbhTSE
bhYUbhZEzHAzOUND OMEGAySCHWAbd WITH DIAERESISzEMISOFT SIGNzHAbaCHAbaHAbc WITH DESCENDERbaORT Ibf WI
TH TAILbeUbaWEzOFT DEbdELbeMbdSIGNzTRAIGHT Ubi WITH STROKEyTCHEzEba WITH DESCENDERbgMIDDLE HOOKzSEb
aHEbaSEbaWEzWEyUz WITH DIAERESISbgOUBLE ACUTEbfMACRONzKbaRAINIAN IEyVEyWEyYAbaEbaTzERUbc WITH BAC
K YERbiDIAERESISzIzNzUyZEba WITH DESCENDERbhIAERESISbaMLYAzHEbb WITH BREVEbhDESCENDERbiIAERESISbaWE
sIGATURE A IEbaEN GHEbaTE TSEjKAVYKAjLETTER MULTIOCULAR OqPALOCHKAqSMALL CAPITAL ELjPAYEROKjSMALL L
ETTER Ax WITH BREVEbdDIAERESISxBKHASIAN CHEbj WITH DESCENDERbgDZEbgHAxLEUT KAwBARRED Obe WITH DIAER
ESISySHKIR KAxExIG YUSyNOCULAR OxLENDED YUSxROAD OMEGAxYELORUSSIAN-UKRAINIAN IwCCHExHEz WITH DESCEN
DERbgIAERESISbfVERTICAL STROKExLOSED LITTLE YUSxROSSED OwDCHExExJEzRVxOUBLE MONOCULAR ObdOxWExZEzLO
yHEyWEyZEzHEwEx WITH DIAERESISxFxLy WITH DESCENDERbeHOOKbeMIDDLE HOOKbeTAILxMy WITH TAILxNy WITH DE
SCENDERbeHOOKbeLEFT HOOKbeMIDDLE HOOKbeTAILxRy WITH TICKxSy WITH DESCENDERwFITAwGHEz WITH DESCENDER
bfMIDDLE HOOKbfSTROKEbl AND HOOKbfUPTURNxJEwHAy WITH DESCENDERbeHOOKbeSTROKEyRD SIGNxWEwIx WITH DIA
ERESISbdGRAVEbdMACRONxEy WITH BREVEbeGRAVExOyTAzIFIED AbfBIG YUSbfCLOSED LITTLE YUSbfEbfLITTLE YUSb
fYATxZHITSAbd WITH DOUBLE GRAVE ACCENTwJEwKAy WITH DESCENDERbeHOOKbeSTROKEbeVERTICAL STROKExHAKASSI
AN CHExJExOMI DEbcJEbcZJEbbLJEbbNJEbbSJEbbTJEbbZJEyPPAxSIwLHAxITTLE YUSxJExONG-LEGGED DEwMONOCULA
R ObaGRAPH UKwNARROW OxEUTRAL YERxJEwOx WITH DIAERESISxMEGAbb WITH TITLOxTwPALOCHKAxEy WITH DESCEND
ERbeMIDDLE HOOKxSIwQAwREVERSED DZEbfTSEbfYUbfZExHAxOUND OMEGAbbED VEwSCHWAbb WITH DIAERESISxEMISOF
T SIGNxHAyCHAyHAba WITH DESCENDERyORT Ibd WITH TAILbcUyWExOFT DEbbELbcMbbSIGNxTRAIGHT Ubg WITH STRO
KEwTALL HARD SIGNbbTEbbYATxCHExEy WITH DESCENDERbeMIDDLE HOOKxHREE-LEGGED TExSEyHEySEyWExWEwUx WIT
H DIAERESISbeOUBLE ACUTEbdMACRONxKyRAINIAN IExNBLENDED UKwVEwWExIDE ESwYAyEyTxERUba WITH BACK YERbg
DIAERESISxIxNxUwZEy WITH DESCENDERbfIAERESISyMLYAxHEz WITH BREVEbfDESCENDERbgIAERESISyWEqIGATUR
E A IEyEN GHEyTE TSEjTHOUSANDS SIGN"

end TermAudit.CharacterName
