/-!
# `TermAudit.Text.CharacterName.NamesDToG`: names of characters, first letters `D` to `G`

The names come in order. Before each one stands, as a number with the digits `a` to `z`, how many
code points it has in common with the one before. Line breaks count for nothing.
-/

set_option autoImplicit false

namespace TermAudit.CharacterName

/-- The names that begin with a letter from `D` to `G`. -/
def namesDToG : String :=
  "aDAGGERg KNIFEhWITH LEFT GUARDmRIGHT GUARDcLET SYMBOLcNCERdGOcRK SHADEgUNGLASSEScSH SYMBOLfWIT
H LEFT UPTURNeED LOW LINEhOVERLINEhTRIANGLE-HEADED RIGHTWARDS ARROWcTA LINK ESCAPEbC1c2c3c4cSbEAF P
ERSONcCIDUOUS TREEeMAL EXPONENT SYMBOLiSEPARATOR KEY SYMBOLdREASE FONT SIZE SYMBOLcERcGREE CELSIUSh
FAHRENHEIThSIGNcLdETEdIVERY TRUCKdTA EQUAL TOcNTISTRY SYMBOL LIGHT DOWN AND HORIZONTALbq WITH CIRCL
EbwTRIANGLEbwWAVExUP AND HORIZONTALbo WITH CIRCLEbuTRIANGLEbuWAVExVERTICAL AND BOTTOM LEFTbrRIGHTbk
TOP LEFTboRIGHTbkWAVEbgWITH CIRCLEblTRIANGLEcPARTMENT STOREcRELICT HOUSE BUILDINGcSCENDING NODEdERE
T CAPITAL LETTER AYxBEExCHEExDEExEFyLyMyNzGyRySzHyTHyWxGAYxHxJEExKAYxLONG AbdHbcEbcIbcObdOxOIyWxPEE
xSHORT AbeHbdEbdIbdObeOxTEEyHEExVEExWUxYEExZEEyHEEiSMALL LETTER AYvBEEvCHEEvDEEvEFwLwMwNxGwRwSxHwTH
wWvGAYvHvJEEvKAYvLONG AbbHbaEbaIbaObbOvOIwWvPEEvSHORT AbcHbbEbbIbbObcOvTEEwHEEvVEEvWUvYEEvZEEwHEEfT
g ISLANDdKTOP COMPUTERiWINDOWcVANAGARI ABBREVIATION SIGNmCUTE ACCENTlCARETlDANDAmIGIT EIGHTrFIVEsOU
RrNINErONErSEVENsIXrTHREEsWOrZEROmOUBLE DANDAlGAP FILLERmRAVE ACCENTlHEADSTROKElJAIN OMlLETTER AtAt
ItUtWtYsBAtBAtHAsCAuNDRA AzEzOtHAsDAtDAuDAvHAuHAtHAsEsFAsGAtGAtHAuHAtLOTTAL STOPsHAtEAVY YAsItIsJAt
HAtJAsKAtHAuHAsLAtLAuLAsMAuRWARI DDAsNAtGAtNAuNAtYAsOtEtOEsPAtHAsQAsRAtHAtRAsSAtHAuORT AyEyOtSAsTAt
HAtTAuHAsUtEtUuEsVAtOCALIC LbbLbaRbbRsYAtYAsZAtHAlOMlSIGN ANUSVARArVAGRAHAqCANDRABINDUbb AVAGRAHAbc
THREEbdWObcVIRAMAqDOUBLE CANDRABINDU VIRAMAqHIGH SPACING DOTqINVERTED CANDRABINDUqNUKTAqPUSHPIKAqSI
DDHAMrPACING CANDRABINDUqVIRAMAsSARGAmTRESS SIGN ANUDATTAxUDATTAlVOWEL SIGN AAxIxUxWxYwCANDRA EbdLO
NG EbdOwEwIxIwOxExOEwPRISHTHAMATRA EwSHORT EbcOwUxExUyEwVOCALIC LbfLbeRbfRdICE CONTROL FOURpONEpSTR
INGpTHREEqWObIAERESISdMETER SIGNeOND OPERATORiSHAPE WITH A DOT INSIDEiTARGETiWITH BOTTOM HALF BLACK
nLEFT HALF BLACKnRIGHT HALF BLACKnTOP HALF BLACKcE FACE-1j2j3j4j5j6dSEL LOCOMOTIVEcFFERENCE BETWEEN
cGIT EIGHTl COMMAmFULL STOPgFIVEk COMMAlFULL STOPhOURk COMMAlFULL STOPgNINEk COMMAlFULL STOPgONEj C
OMMAkFULL STOPgSEVENl COMMAmFULL STOPhIXj COMMAkFULL STOPgTHREEl COMMAmFULL STOPhWOj COMMAkFULL STO
PgZEROk COMMAlFULL STOPdRAM FOR EARTHqLY HEAVENuUMANlGREATER YANGuINlHEAVENLY EARTHmUMAN EARTHlLESS
ER YANGtINcMENSION ORIGINcNGBAT CIRCLED SANS-SERIF DIGIT EIGHTbhFIVEbiOURbhNINEbhONEbhSEVENbiIXbhTH
REEbiWObhZERObbNUMBER TENiNEGATIVE CIRCLED DIGIT EIGHTbfFIVEbgOURbfNINEbfONEbfSEVENbgIXbfTHREEbgWOz
NUMBER TENzSANS-SERIF DIGIT EIGHTbqFIVEbrOURbqNINEbqONEbqSEVENbrIXbqTHREEbrWObqZERObkNUMBER TENcREC
T CURRENT SYMBOL FORM TWOhHITcSABLED CARePPOINTED BUT RELIEVED FACEnFACEdCONTINUOUS UNDERLINE SYMBO
LdGUISED FACEcTTO MARKcVES AKURU DIGIT EIGHTsFIVEtOURsNINEsONEsSEVENtIXsTHREEtWOsZEROnOUBLE DANDAmE
ND OF TEXT MARKmGAP FILLERmINITIAL RAmLETTER AuAtBAuHAtCAuHAtDAuDAvHAuHAtEtGAuHAtHAtIuItJAtKAuHAtLA
uLAtMAtNAuGAuNAuYAtOtPAuHAtRAtSAuHAuSAtTAuHAuTAtUuUtVAtYAuYAtZAmMEDIAL RAtYAmPREFIXED NASAL SIGNmSI
GN ANUSVARArCANDRABINDUrHALANTArNUKTAmVIRAMAnOWEL SIGN AAyIxExIyIxOxUyUdIDESeNG MASKeSION SIGNkLASH
jTIMESdORCE SYMBOLcYA LAMPcZZY FACEgSYMBOLbLEbNA DOUBLE HELIXbO NOT LITTER SYMBOLcCUMENTi WITH PICT
UREoTEXTs AND PICTUREcDOcES NOT CONTAIN AS MEMBERuNORMAL SUBGROUPbj OR EQUALjDIVIDEp WITH REVERSE
D NEGATION SLASHjFORCEjPRECEDEq OR EQUALlOVEjSUCCEEDq OR EQUALcGd FACEdRA ABBREVIATION SIGNgLETTE
R AoAoIoUnBAoHAnCAoHAnDAoDApHAoHAnEnGAoHAnHAnIoInJAoHAnKAoHAnLAnMAnNAoGAoNAoYAnOnPAoHAnRAoRAnSAoHAo
SAnTAoHAoTApHAnUoUnVAnYAgSIGN ANUSVARAlNUKTAlVIRAMAnSARGAgVOWEL SIGN AAsIsUrErIsIrOrUsUrVOCALIC Rba
RcLLAR SIGNdPHINcMINO TILE HORIZONTAL BACKw-00-00bb1bb2bb3bb4bb5bb6y1-00bb1bb2bb3bb4bb5bb6y2-00bb1b
b2bb3bb4bb5bb6y3-00bb1bb2bb3bb4bb5bb6y4-00bb1bb2bb3bb4bb5bb6y5-00bb1bb2bb3bb4bb5bb6y6-00bb1bb2bb3bb
4bb5bb6mVERTICAL BACKu-00-00z1z2z3z4z5z6w1-00z1z2z3z4z5z6w2-00z1z2z3z4z5z6w3-00z1z2z3z4z5z6w4-00z1z
2z3z4z5z6w5-00z1z2z3z4z5z6w6-00z1z2z3z4z5z6cNG SIGNcORcT ABOVEeMINUSeOPERATORePLUSdTED CIRCLEiROSSh
FENCEhLINE FACEhOBELOShRIGHT-POINTING ANGLEhSOLIDUSiQUAREhTRANSPOSITION MARKERcUBLE ACUTE ACCENThCI
RCLED DIGIT EIGHTvFIVEwOURvNINEvONEvSEVENwIXvTHREEwWOpNUMBER TENiOLON EQUALiURLY LOOPhDAGGERiOWN TA
CKhEXCLAMATION MARKhHIGH-REVERSED-9 QUOTATION MARKiYPHENhINTEGRALlRSECTIONhLEFT ARC GREATER-THAN BR
ACKETiOGICAL ANDpORjW LINEk-9 QUOTATION MARKlREVERSED-9 QUOTATION MARKhNESTED GREATER-THANoLESS-THA
Nx WITH UNDERBARhOBLIQUE HYPHENhPLUSiRECEDESjIMEm QUOTATION MARKhQUESTION MARKhRIGHT ARC LESS-THA
N BRACKEThSOLIDUS OPERATORiQUARE INTERSECTIONoUNIONiTACKED COMMAjROKE NOT SIGNiUBSETjCCEEDSjPERSETj
SPENSION MARKhUNIONiP TACKhVERTICAL BARt DOUBLE LEFT TURNSTILEbbRIGHT TURNSTILEuLEFT TURNSTILEqLINE
hWAVY OVERLINEg-ENDED MULTIMAPhLINE EQUAL TO OR GREATER-THANyLESS-THANmSLANTED EQUAL TO OR GREATER-
THANbgLESS-THANuGREATER-THAN OR EQUAL TOuLESS-THAN OR EQUAL TOhSTRUCK CAPITAL CwGAMMAwHwNwPxIwQwRwZ
oITALIC CAPITAL DvSMALL DbbEbbIbbJoN-ARY SUMMATIONoSMALL GAMMAuPIgD FEMALE SIGNiMALE SIGNiSYMBOLdGH
NUTcVE OF PEACEcWN ARROWHEADfFISH TAILfRIGHT DIAGONAL ELLIPSISfTACKj WITH CIRCLE BELOWe-POINTING RE
D TRIANGLEoSMALL RED TRIANGLEoTRIANGLE WITH LEFT HALF BLACKbcRIGHT HALF BLACKeWARD FACING HOOKu WIT
H DOTqNOTCHED HOOKbc WITH DOTiS ANCORAlRROWp AND RIGHT ONE EIGHTH BLOCKqFROM BARqLEFTWARDS OF UPWAR
DS ARROWqTO BARqWITH CORNER LEFTWARDSvDOUBLE STROKEvEQUILATERAL ARROWHEADvHORIZONTAL STROKEvLARGE T
RIANGLE ARROWHEADvMEDIUM TRIANGLE ARROWHEADvNOTCHED TAILvSMALL EQUILATERAL ARROWHEADbbTRIANGLE ARRO
WHEADvTIP LEFTWARDSzRIGHTWARDSkBLACK ARROWqCIRCLED WHITE ARROWkCOMPRESSED ARROWkDASHED ARROWlOUBL
E ARROWkFINGER-POST ARROWkHARPOON WITH BARB LEFT BESIDE DOWNWARDS HARPOON WITH BARB RIGHTboUPWARD
S HARPOON WITH BARB RIGHTbhFROM BARbhTO BARbgWARDSbcRIGHT FROM BARbiTO BARbhWARDSlEAVY ARROWqCOMPRE
SSED ARROWkPAIRED ARROWSkQUADRUPLE ARROWkROCKETkSANS-SERIF ARROWlQUARED ARROWkTRIANGLE ARROWHEADs-H
EADED ARROWbf LEFTWARDS OF UPWARDS TRIANGLE-HEADED ARROWbgTO BARbgWITH BOLD SHAFTblDOUBLE HORIZONTA
L STROKEblHEAVY SHAFTblLONG TIP LEFTWARDSbuRIGHTWARDSblMEDIUM SHAFTblNARROW SHAFTblVERY HEAVY SHAFT
baDASHED ARROWbaPAIRED ARROWSbaZIGZAG ARROWnPLE ARROWlWO HEADED ARROWn-HEADED ARROW WITH TRIANGLE A
RROWHEADSkWHITE ARROWv WITHIN TRIANGLE ARROWHEADkZIGZAG ARROWbRACHMA SIGNdFTING POINT RIGHTWARDS AR
ROWdGONg FACEcESScIVE SLOW SIGNcOMEDARY CAMELdOLING FACEdP OF BLOODeLETcUM WITH DRUMSTICKSbUCKcMPLI
NGcPLOYAN AFFIX ATTACHED E HOOKyI HOOKyLEFT-TO-RIGHT SECANTySECANTyTAILbaNGENTbf HOOKpHIGH ACUTEuCI
RCLEuDOTuGRAVEuLINEvONG GRAVEuTIGHT ACUTEuVERTICALbc SECANTuWAVEpLEFT HORIZONTAL SECANTqOW ACUTEuRR
OWtCIRCLEtDOTtGRAVEtLINEuONG GRAVEtTIGHT ACUTEtVERTICALbb SECANTtWAVEpMID HORIZONTAL SECANTtVERTICA
L SECANTpRIGHT HORIZONTAL SECANTjDOUBLE MARKjLETTER ArOUqBqDr SrHqErErUqFr NqGr R SqHrLqIrEqJr Mt S
sNt SsSt WITH DOTsWITH DOTbaS INSIDE AND ABOVEqKr MsR SrKqLrHrONG IvUqMr Nt SsSsWITH DOTqNr Mt SsSs
WITH DOTrASAL AwIwOwUqOrArOHrUrWqPr NrERNIN AMyNqRr SrHrOMANIAN IzUqSr Jt SsKt RsMsNsPt RsSsTt RsWI
TH DOTba BELOWrHORT IrLOAN ANwDHwEExHxNwJwONxWwUqTr R SsSrHqUr NrHrIqVrOCALIC MqWr RrArEIrHrIrOsWqX
rWqYEjPUNCTUATION CHINOOK FULL STOPjSIGN O WITH CROSSjTHICK LETTER SELECTORbVDaE-MAIL SYMBOLbAGLEcR
d OF MAIZEhRICEeWITH HEARING AIDdTHf GLOBE AMERICASnSIA-AUSTRALIAmEUROPE-AFRICAhROUNDcST SYRIAC CRO
SSbDITORIAL CORONISbGGcYPTIAN HIEROGLYPH A001x2x3x4x5yAx6yAyBx7x8x9w10x1x2x3x4yAx5x6x7yAx8x9w20x1x2
x3x4x5x6x7x8x9w30x1x2yAx3x4x5x6x7x8x9w40yAx1x2yAx3yAx4x5yAx6x7x8x9w50x1x2x3x4x5x6x7x8x9w60x1x2x3x4x
5x6x7x8x9w70vA001y2y3y4y5y6y7zAzBy8y9x10y1y2y3y4y5y6y7y8y9x20y1y2y3y4y5y6y7y8y9x30y1y2uB001x2x3x4x5
yAx6x7x8x9vEGIN SEGMENTuC001x2yAyByCx3x4x5x6x7x8x9w10yAx1x2x3x4x5x6x7x8x9w20x1x2x3x4uD001x2x3x4x5x6
x7x8yAx9w10x1x2x3x4x5x6x7x8x9w20x1x2x3x4x5x6x7yAx8x9w30x1yAx2x3x4yAx5x6x7x8x9w40x1x2x3x4x5x6yAx7x8y
Ax9w50yAyByCyDyEyFyGyHyIx1x2yAx3x4yAx5x6x7x8x9w60x1x2x3x4x5x6x7yAyByCyDyEyFyGyHuE001x2x3x4x5x6x7x8y
Ax9yAw10x1x2x3x4x5x6yAx7yAx8x9w20yAx1x2x3x4x5x6x7x8yAx9w30x1x2x3x4yAx6x7x8vND SEGMENTuF001yAx2x3x4x
5x6x7x8x9w10x1x2x3yAx4x5x6x7x8x9w20x1yAx2x3x4x5x6x7x8x9w30x1yAx2x3x4x5x6x7yAx8yAx9w40x1x2x3x4x5yAx6
yAx7yAx8x9w50x1yAyByCx2x3uG001x2x3x4x5x6yAx7yAyBx8x9w10x1yAx2x3x4x5x6x7x8x9w20yAx1x2x3x4x5x6yAx7x8x
9w30x1x2x3x4x5x6yAx7yAx8x9w40x1x2x3yAx4x5yAx6x7x8x9w50x1x2x3x4uH001x2x3x4x5x6yAx7x8vORIZONTAL JOINE
RuI001x2x3x4x5yAx6x7x8x9yAw10yAx1yAx2x3x4x5vNSERT AT BOTTOM ENDblSTARTbeTOP ENDbiSTARTuK001x2x3x4x5
x6x7x8uL001x2yAx3x4x5x6yAx7x8uM001yAyBx2x3yAx4x5x6x7x8x9w10yAx1x2yAyByCyDyEyFyGyHx3x4x5yAx6yAx7yAx8
x9w20x1x2yAx3x4yAx5x6x7x8yAx9w30x1yAx2x3yAyBx4x5x6x7x8x9w40yAx1x2x3x4uN001x2x3x4x5x6x7x8x9w10x1x2x3
x4x5x6x7x8yAyBx9w20x1x2x3x4x5yAx6x7x8x9w30x1x2x3yAx4yAx5yAx6x7yAx8x9w40x1x2vL001y2y3y4y5zAy6y7y8y9x
10y1y2y3y4y5y6y7zAy8y9x20vU001y2y3y4y5y6y7y8y9x10zAy1zAy2y3y4y5y6y7y8zAy9x20y1y2zAuO001yAx2x3x4x5yA
x6yAyByCyDyEyFx7x8x9w10yAyByCx1x2x3x4x5x6x7x8x9yAw20yAx1x2x3x4yAx5yAx6x7x8x9yAw30yAx1x2x3yAx4x5x6yA
yByCyDx7x8x9w40x1x2x3x4x5x6x7x8x9w50yAyBx1vVERLAY MIDDLEuP001yAx2x3yAx4x5x6x7x8x9w10x1uQ001x2x3x4x5
x6x7uR001x2yAx3yAyBx4x5x6x7x8x9w10yAx1x2x3x4x5x6yAx7x8x9w20x1x2x3x4x5x6x7x8x9uS001x2yAx3x4x5x6yAx7x
8x9w10x1x2x3x4yAyBx5x6x7yAx8x9w20x1x2x3x4x5x6yAyBx7x8x9w30x1x2x3x4x5yAx6x7x8x9w40x1x2x3x4x5x6uT001x
2x3yAx4x5x6x7yAx8yAx9yAw10x1yAx2x3x4x5x6yAx7x8x9w20x1x2x3x4x5x6x7x8x9w30x1x2yAx3yAx4x5x6uU001x2x3x4
x5x6yAyBx7x8x9w10x1x2x3x4x5x6x7x8x9w20x1x2x3yAx4x5x6x7x8x9yAw30x1x2yAx3x4x5x6x7x8x9w40x1x2uV001yAyB
yCyDyEyFyGyHyIx2yAx3x4x5x6x7yAyBx8x9w10x1yAyByCx2yAyBx3x4x5x6x7x8x9w20yAyByCyDyEyFyGyHyIyJyKyLx1x2x
3yAx4x5x6x7x8yAx9yAw30yAx1yAx2x3yAx4x5x6x7yAx8x9w40yAvERTICAL JOINERuW001x2x3yAx4x5x6x7x8x9yAw10yAx
1x2x3x4yAx5x6x7yAx8yAx9w20x1x2x3x4yAx5uX001x2x3x4yAyBx5x6yAx7x8yAuY001yAx2x3x4x5x6x7x8uZ001x2yAyByC
yDx3yAyBx4yAx5yAx6x7x8x9w10x1x2x3x4x5yAyByCyDyEyFyGyHyIx6yAyByCyDyEyFyGyHbIGHT PETALLED OUTLINED BL
ACK FLORETTEhOINTED BLACK STARoPINWHEEL STARoRECTILINEAR BLACK STARgSPOKED ASTERISKgTEARDROP-SPOKE
D PROPELLER ASTERISKfH NOTEbJECT SYMBOLbLBASAN LETTER ApBEpCEqHEpDEqHEpEqIpFEpGEqHAMMArEqJEpHEpIpJE
pKEqHEpLEqLEpMEpNAqDEqEqJEpOpPEpQEpREqREpSEqHEpTEqHEpUpVEpXEpYpZEqHEcECTRIC ARROWjLIGHT BULBjPLUGjT
ORCHiAL INTERSECTIONdMENT OFk OPENING DOWNWARDStUPWARDSlWITH DOT ABOVEqLONG HORIZONTAL STROKEqOVERB
ARqTWO HORIZONTAL STROKESqUNDERBARqVERTICAL BAR AT END OF HORIZONTAL STROKEdPHANTdVATORcFcYMAIC LET
TER ALEPHqYINpBETHpDALETHpGIMELpHErTHpKAPHpLAMEDHpMEMpNUNpPEpQOPHpRESHpSADHErMEKHqHINpTAWqETHpWAWpY
ODHpZAYINjIGATURE ZAYIN-YODHbM DASHdQUADdSPACEcOJI COMPONENT BALDqCURLY HAIRqRED HAIRqWHITE HAIRgMO
DIFIER FITZPATRICK TYPE-1-2bg3bg4bg5bg6cPHASIS SYMBOLdTY DOCUMENTgNESThOTEk PADnGEgPAGEkSgSETj WIT
H LEFT ARROW ABOVEpOVERBARpRIGHT ARROW ABOVEpSMALL CIRCLE ABOVEbN DASHdQUADdSPACEcD OF GUARDED AREA
hLINEhMEDIUMhPROOFkTECTED AREAhSELECTED AREAhTEXTiRANSMISSIONt BLOCKeWITH LEFTWARDS ARROW ABOVEcQdU
IRYcTER SYMBOLcVELOPEi WITH DOWNWARDS ARROW ABOVEoLIGHTNINGbOLcMcTbPAbQUAL AND PARALLEL TOgTO BY DE
FINITIONjOR GREATER-THANmLESS-THANmPRECEDESmSUCCEEDSfS COLONhSIGNl ABOVE LEFTWARDS ARROWsPLUS SIGNs
RIGHTWARDS ARROWsTILDE OPERATORnND SLANTED PARALLELbg WITH TILDE ABOVEmWITH BUMPY ABOVErDOT BELOWrI
NFINITY BELOWrTWO DOTS ABOVE AND TWO DOTS BELOWhWITH ASTERISKdIANGULAR TOeVALENT TOlWITH FOUR DOT
S ABOVEbRASE TO THE LEFTnRIGHTcIS FORM ONEkTWOcROR-BARRED BLACK CIRCLEtDIAMONDtSQUAREnWHITE CIRCLEt
DIAMONDtSQUAREbSAcCdAPEcTIMATED SYMBOLiSbTBcHIOPIC COLONlMBINING GEMINATION AND VOWEL LENGTH MARKbe
MARKtVOWEL LENGTH MARKmMAjDIGIT EIGHTpFIVEqOURpNINEpONEpSEVENqIXpTHREEqWOjFULL STOPjNUMBER EIGHTYqF
IFTYrORTYqHUNDREDqNINETYqSEVENTYrIXTYqTENt THOUSANDrHIRTYrWENTYjPARAGRAPH SEPARATORkREFACE COLONjQU
ESTION MARKjSECTION MARKlMICOLONkYLLABLE BAuAtBAvAuEvEuIuOuUtEuEtItOuAtUtWAuEvEuIsCAuAtCAvAuEvEuHAw
AvEwEvHAxAwExEwIwOwUvIvOvUuIuOuUtEuEtHAvAuEvEuIuOvAuUuWAtItOuAtUtWAsDAuAtDAvAuEvEuHAAvEwEvIvOvUuIuO
vAuUuWAtEuEtItOuAtUtWAtZAAuEvEuIuOuUsFAuAtEuEtItOtUtWAuEvEuItYAsGAuAtEuEtGAvAuEvEuIuOuUuWAwAvEwEvIt
ItLOTTAL AbbAbaEbbEbaIbaObbAbaUbaWAtOuAtUuRAGE BWEEbbIzFWEEbbIzGWEbcEbbIzHHWAzKWEbcEbbIzMWEEbbIzPWE
EbbIzQWEbcEbbItWAvAuEvEuItYAvAuEvEuIuOuUsHAuAtEuEtHAvAuEvEuIuOuUuWAvEwEvIuYAwAvEwEvIvOvUtItOuAtUsJA
uAtEuEtItOuAtUtWAsKAuAtEuEtItOuAtUtWAvAuEvEuItXAvAuEvEuIuOuUuWAwAvEwEvItYAvAuEvEuIuOuUsLAuAtEuEtItO
uAtUtWAsMAuAtEuEtItOuAtUtWAuEvEuItYAsNAuAtEuEtItOuAtUtWAtYAvAuEvEuIuOvAuUuWAsPAuAtEuEtHAvAvRYNGEA
L AbeAbdEbeEbdIbdObdUuEvEuIuOvAuUuWAtItOuAtUtWAuEvEuIsQAuAtEuEtHAvAuEvEuIuOuUuWAwAvEwEvItItOuAtUtWA
vAuEvEuItYAvAuEvEuIuOuUsRAuAtEuEtItOuAtUtWAtYAsSAuAtEuBATBEIT BWAbcFWAbcMWAbcPWAuEtHAvAuEvEuIuOvAuU
uWAtItOuAtSAvAuEvEuIuOuUtUtWAtZAvAuEvEuIuOuUuWAsTAuAtEuEtHAvAuEvEuIuOvAuUuWAtItOuAtSAvAuEvEuIuOuUuW
AtTHAAvEwEvIvOvUtUtWAtZAvAuEvEuIuOvAuUsVAuAtEuEtItOtUtWAsWAuAtEuEtItOuAtUsXAuAtEuEtItOuAtUtWAvAuEvE
uItYAvAuEvEuIuOuUsYAuAtEuEtItOuAtUsZAuAtEuEtHAvAuEvEuIuOuUuWAtItOuAtUtWAtZAvAuEvEuIuOuUjTONAL MAR
K CHIRETuDERETz-HIDETvIFATuHIDETuKENATvURTuRIKRIKuSHORT RIKRIKuYIZETjWORDSPACEcXbULER CONSTANTcRO S
IGNe-CURRENCY SIGNePEAN CASTLEjPOST OFFICEbVERGREEN TREEbXCESSdLAMATION MARKmQUESTION MARKcPRESSION
LESS FACEcTENDED ARABIC-INDIC DIGIT EIGHTbcFIVEbdOURbcNINEbcONEbcSEVENbdIXbcTHREEbdWObcZEROdRATERRE
STRIAL ALIENeEMELY HEAVY FIVE SPOKED ASTERISKqGREEK CROSSqSALTIRErIX SPOKED ASTERISKqWHITE CIRCLEwS
QUAREbYEdGLASSESdSaFACE HOLDING BACK TEARSfMASSAGEfPALMfSAVOURING DELICIOUS FOODgCREAMING IN FEARfT
HROWING A KISSfWITH COLD SWEATmWBOY HATkDIAGONAL MOUTHkFINGER COVERING CLOSED LIPSkHEAD-BANDAGEkLOO
K OF TRIUMPHkMEDICAL MASKlONOCLEkNO GOOD GESTUREkOK GESTURElNE EYEBROW RAISEDlPEN EYES AND HAND OVE
R MOUTHpMOUTHu AND COLD SWEATvVOMITINGkPARTY HORN AND PARTY HATlEEKING EYElLEADING EYESkROLLING EYE
SkSTUCK-OUT TONGUEba AND TIGHTLY-CLOSED EYESbfWINKING EYEkTEARS OF JOYlHERMOMETERkUNEVEN EYES AND W
AVY MOUTHjOUT MOUTHdSIMILE SIGNdTORYcIRYcLAFELdLEN LEAFeING DIAGONAL CROSSING NORTH EAST ARROWbaRIS
ING DIAGONALrIN WHITE CIRCLE IN BLACK SQUAREcMILYcRSI SYMBOLcTHER CHRISTMAScX ICONeMACHINEbEARFUL F
ACEdTHERcMALE SIGNdININE ORDINAL INDICATORcNCERcRRIS WHEELeYbFbIELD HOCKEY STICK AND BALLcGURE DASH
hSPACEcLE CABINETfFOLDERfSEPARATORdM FRAMESfPROJECTORcNITE PART INTEGRALcREe ENGINEgXTINGUISHEReCRA
CKEReWORK SPARKLERiSdST PLACE MEDALgQUARTER MOONs SYMBOLtWITH FACEgSTRONG ISOLATEcSHe CAKE WITH SWI
RL DESIGNeEYEeING POLE AND FISHdTED HAND SIGNcVE DOT MARKjPUNCTUATIONbLAG IN HOLEdMINGOdT SHOEeBREA
DeNESScEUR-DE-LISdXED BICEPScOPPY DISKdRAL HEARTdWERg PLAYING CARDSiUNCTUATION MARKcUSHED FACEcYdIN
G DISChENVELOPEhSAUCERbOGdGYcLDERcNDUEcOTePRINTScR ALLdCESdK AND KNIFEo WITH PLATEeED PARAGRAPHOSeI
NGdM FEEDdTUNE COOKIEcUNTAINdR BALLOON-SPOKED ASTERISKfCLUB-SPOKED ASTERISKgORNER ARROWS CIRCLING A
NTICLOCKWISEfDOT MARKjPUNCTUATIONfLEAF CLOVERfPOINTED BLACK STARfTEARDROP-SPOKED ASTERISKe-PER-EM S
PACEeTH ROOTcX FACEbRACTION NUMERATOR ONEjSLASHdME WITH AN XlPICTURElTILEScEEZING FACEdNCH FRANC SI
GNjIEScIED SHRIMPcOG FACEdNT-FACING BABY CHICKgTILTED SHADOWED WHITE RIGHTWARDS ARROWdWNfING FACE W
ITH OPEN MOUTHbScIbUEL PUMPcLL BLOCKfMOON SYMBOLkWITH FACEfOUTER JOINfSTOPeWIDTH AMPERSANDlPOSTROPH
ElSTERISKkBROKEN BARkCENT SIGNlIRCUMFLEX ACCENTlOLONmMMAoERCIAL ATkDIGIT EIGHTqFIVErOURqNINEqONEqSE
VENrIXqTHREErWOqZEROlOLLAR SIGNkEQUALS SIGNlXCLAMATION MARKkFULL STOPkGRAVE ACCENTmEATER-THAN SIGNk
HYPHEN-MINUSkLATIN CAPITAL LETTER AbfBbfCbfDbfEbfFbfGbfHbfIbfJbfKbfLbfMbfNbfObfPbfQbfRbfSbfTbfUbfVb
fWbfXbfYbfZqSMALL LETTER AbdBbdCbdDbdEbdFbdGbdHbdIbdJbdKbdLbdMbdNbdObdPbdQbdRbdSbdTbdUbdVbdWbdXbdYb
dZlEFT CURLY BRACKETpPARENTHESISpSQUARE BRACKETpWHITE PARENTHESISmSS-THAN SIGNlOW LINEkMACRONkNOT S
IGNlUMBER SIGNkPERCENT SIGNlLUS SIGNlOUND SIGNkQUESTION MARKmOTATION MARKkREVERSE SOLIDUSlIGHT CURL
Y BRACKETqPARENTHESISqSQUARE BRACKETqWHITE PARENTHESISkSEMICOLONlOLIDUSkTILDEkVERTICAL LINEkWON SIG
NkYEN SIGNcNCTION APPLICATIONdERAL URNcSEbVS1d2d3d4aGAME DIEcRLICbEARe WITH HANDLESjOUT HUBcM STONE
dINIcNIEcOMETRIC PROPORTIONjALLY EQUAL TOrIVALENT TOdRGIAN CAPITAL LETTER AENzNyBANyCANzHARbaINzILy
DONyENyGANzHANyHAEbaRzEzIEzOEyINyJHANzILyKANzHARyLASyMANyNARyONyPARzHARyQARyRAEySANzHINyTANbaRyUNyV
INyWEyXANyYNyZENzHARjLETTER AENrINrNqBANqCANrHARsINrILqDONqELIFIrNqFIqGANrHANqHAEsRtD SIGNrErIErOEq
INqJHANrILqKANrHARqLABIAL SIGNsSqMANqNARqONqPARrHARqQARqRAEqSANrHINqTANsRrURNED GANqUNqVINqWEqXANqY
NqZENrHARjMTAVRULI CAPITAL LETTER AENbiINbiNbhBANbhCANbiHARbjINbiILbhDONbhELIFIbiNbhFIbhGANbiHANbhH
AEbjRbkD SIGNbiEbiIEbiOEbhINbhJHANbiILbhKANbiHARbhLABIAL SIGNbjSbhMANbhNARbhONbhPARbiHARbhQARbhRAEb
hSANbiHINbhTANbjRbiURNED GANbhUNbhVINbhWEbhXANbhYNbhZENbiHARjPARAGRAPH SEPARATORjSMALL LETTER AENxN
wBANwCANxHARyINxILwDONwENwGANxHANwHAEyRxExIExOEwINwJHANxILwKANxHARwLASwMANwNARwONwPARxHARwQARwRAEwS
ANxHINwTANyRwUNwVINwWEwXANwYNwZENxHARcRMAN PENNY SIGNcTA MARKbHOSTbIMEL SYMBOLcRAFFE FACEdLeS SYMBO
LbLAGOLITIC CAPITAL LETTER AZUbaBIG YUSbbUKYbaCAUDATE CHRIVIbbHRIVIbaDJERVIbbOBRObbZELObaFITAbbRITU
baGLAGOLIbaHERUbaIbbNITIAL IZHEbbOTATED BIG YUSbiSMALL YUSbbZHEbdITSAbaKAKObaLATINATE MYSLITEbbJUDI
JEbaMYSLITEbaNASHIbaONUbbTUbaPEbbOKOJIbaRITSIbaSHAbcTAbePICbbLOVObbMALL YUSbj WITH TAILbbPIDERY HAb
aTROKUTASTI AbbSIbbVRIDObaUKUbaVEDEbaYATIbbERIbdUbcSTUbbObbUbaZEMLJAbbHIVETElSMALL LETTER AZUyBIG Y
USzUKYyCAUDATE CHRIVIzHRIVIyDJERVIzOBROzZELOyFITAzRITUyGLAGOLIyHERUyIzNITIAL IZHEzOTATED BIG YUSbgS
MALL YUSzZHEbbITSAyKAKOyLATINATE MYSLITEzJUDIJEyMYSLITEyNASHIyONUzTUyPEzOKOJIyRITSIySHAbaTAbcPICzLO
VOzMALL YUSbh WITH TAILzPIDERY HAyTROKUTASTI AzSIzVRIDOyUKUyVEDEyYATIzERIbbUbaSTUzOzUyZEMLJAzHIVETE
dSS OF MILKcEICH STARKcOBE WITH MERIDIANSdVESdWING STARbOAL NETdTcGGLEScLFERcRILLAcTHIC LETTER AHSA
pIHVUSoBAIRKANoDAGSoEISoFAIHUoGIBAoHAGLpWAIRoIGGWSpUJAoJERoKUSMAoLAGUSoMANNAoNAUTHSpINE HUNDREDsTYo
OTHALoPAIRTHRAoQAIRTHRAoRAIDAoSAUILoTEIWSpHIUTHoURUSoWINJAbRADUATION CAPdNTHA AU LENGTH MARKiLETTE
R AqAqIqUpBAqHApCAqHApDAqDArHAqHApEEpGAqHApHApIqIpJAqHApKAqHApLAqLApMApNAqGAqNAqYApOOpPAqHApRApSAqH
AqSApTAqHAqTArHApUqUpVAqEDIC ANUSVARAvDOUBLE ANUSVARAqOCALIC LyLxRyRpYAiOMiSIGN ANUSVARAoVAGRAHAnCA
NDRABINDUoOMBINING ANUSVARA ABOVEnNUKTAnPLUTAnVIRAMApSARGAiVOWEL SIGN AAuIuUtEEtIuItOOtUuUtVOCALI
C LbcLbbRbcRdPESdVE ACCENTcEATER-THAN ABOVE DOUBLE-LINE EQUAL ABOVE LESS-THANtLESS-THAN ABOVE DOUBL
E-LINE EQUALtRIGHTWARDS ARROWtSIMILAR ABOVE LESS-THANbbOR EQUALuLANTED EQUAL ABOVE LESS-THAN ABOV
E SLANTED EQUALoND NOT APPROXIMATErSINGLE-LINE NOT EQUAL TOnBESIDE LESS-THANoUT NOT EQUAL TOyIVALEN
T TOnCLOSED BY CURVEbc ABOVE SLANTED EQUALnEQUAL TO OR LESS-THANnOR APPROXIMATEqEQUAL TOtIVALENT TO
qLESS-THANqSLANTED EQUAL TObg WITH DOT ABOVEbv LEFTbqINSIDEoVER EQUAL TOrLAPPING LESS-THANnSIGNnWIT
H CIRCLE INSIDEsDOTsQUESTION MARK ABOVEdEK ACROPHONIC ATTIC FIFTYbc STATERSbdTALENTSbeHOUSANDbl STA
TERSzVEbb HUNDREDbj STATERSbkTALENTSbcSTATERSbcTALENTSbdHOUSANDbk TALENTSxONE DRACHMAbbHALFbcUNDRE
D STATERSbjTALENTSbbQUARTERbbTHOUSAND STATERSbkTALENTSxTEN MNASbbSTATERSbbTALENTSbcHOUSAND STATERSr
CARYSTIAN FIVE HUNDREDsYRENAIC TWO DRACHMASrDELPHIC FIVE MNASrEPIDAUREAN FIVE HUNDREDbcTWObf DRACHM
ASrHERAEUM ONE PLETHRONuMIONIAN FIFTYbcONEbcTENrMESSENIAN TENrNAXIAN FIVE HUNDREDrSTRATIAN FIFTY MN
ASrTHESPIAN FIFTYbcVE HUNDREDbfTHOUSANDbaONEbd HUNDREDbeTHOUSANDbaTENbbHIRTYbcREE HUNDREDbbWOsROEZE
NIAN FIFTYbh ALTERNATE FORMbeVEbg HUNDREDbcTENbf ALTERNATE FORMhNO TELEIAhROURA SIGNiTABE SIGNgBET
A SYMBOLgCAPITAL DOTTED LUNATE SIGMA SYMBOLoKAI SYMBOLoLETTER ALPHAba WITH DASIAbl AND OXIAbu AND P
ROSGEGRAMMENIbqPERISPOMENIcb AND PROSGEGRAMMENIbrROSGEGRAMMENIbqVARIAbv AND PROSGEGRAMMENIbgMACRONb
gOXIAbgPROSGEGRAMMENIbhSILIbl AND OXIAbu AND PROSGEGRAMMENIbqPERISPOMENIcb AND PROSGEGRAMMENIbrROSG
EGRAMMENIbqVARIAbv AND PROSGEGRAMMENIbgTONOSbgVARIAbhRACHYwRCHAIC SAMPIvBETAvCHIvDELTAvEPSILONbc WI
TH DASIAbn AND OXIAbsVARIAbiOXIAbiPSILIbn AND OXIAbsVARIAbiTONOSbiVARIAwTAy WITH DASIAbj AND OXIAb
s AND PROSGEGRAMMENIboPERISPOMENIbz AND PROSGEGRAMMENIbpROSGEGRAMMENIboVARIAbt AND PROSGEGRAMMENIbe
OXIAbePROSGEGRAMMENIbfSILIbj AND OXIAbs AND PROSGEGRAMMENIboPERISPOMENIbz AND PROSGEGRAMMENIbpROSGE
GRAMMENIboVARIAbt AND PROSGEGRAMMENIbeTONOSbeVARIAvGAMMAvHETAvIOTAz WITH DASIAbk AND OXIAbpPERISPOM
ENIbpVARIAbgIALYTIKAbfMACRONbfOXIAbfPSILIbk AND OXIAbpPERISPOMENIbpVARIAbfTONOSbfVARIAbgRACHYvKAPPA
vLAMDAvMUvNUvOMEGAba WITH DASIAbl AND OXIAbu AND PROSGEGRAMMENIbqPERISPOMENIcb AND PROSGEGRAMMENIbr
ROSGEGRAMMENIbqVARIAbv AND PROSGEGRAMMENIbgOXIAbgPROSGEGRAMMENIbhSILIbl AND OXIAbu AND PROSGEGRAMME
NIbqPERISPOMENIcb AND PROSGEGRAMMENIbrROSGEGRAMMENIbqVARIAbv AND PROSGEGRAMMENIbgTONOSbgVARIAxICRON
bc WITH DASIAbn AND OXIAbsVARIAbiOXIAbiPSILIbn AND OXIAbsVARIAbiTONOSbiVARIAvPAMPHYLIAN DIGAMMAwHIw
IwSIvRHOy WITH DASIAvSANwHOwIGMAvTAUwHETAvUPSILONbc WITH DASIAbn AND OXIAbsPERISPOMENIbsVARIAbjIALY
TIKAbiMACRONbiOXIAbiTONOSbiVARIAbjRACHYvXIvYOTvZETApUNATE SIGMA SYMBOLoREVERSED DOTTED LUNATE SIGM
A SYMBOLxLUNATE SIGMA SYMBOLoTHETA SYMBOLgDASIAl AND OXIAqPERISPOMENIqVARIAhIALYTIKA AND OXIAuPERIS
POMENIuVARIAqTONOShRACHMA SIGNgFIVE OBOLS SIGNhOUR OBOLS SIGNgGRAMMA SIGNgINDICTION SIGNiSTRUMENTA
L NOTATION SYMBOL-1bk1bk2bk3bk4bk7bk8bk9bj2bk3bk4bk5bk6bk7bk9bj30bk2bk6bk7bk8bk9bj4bk0bk2bk3bk5bk7b
k8bk9bj5bk0bk1bk2bk3bk4bj7bj8gKAI SYMBOLiPPA SYMBOLhORONIShYATHOS BASE SIGNgLETTER ARCHAIC KOPPAnDI
GAMMAnKOPPAnSAMPIoMALL CAPITAL GAMMAbbLAMDAbbOMEGAbbPIbcSIbbRHOoTIGMAnYOThITRA SIGNhOWER NUMERAL SI
GNhUNATE EPSILON SYMBOLnSIGMA SYMBOLgMETRETES SIGNhUSICAL LEIMMAgNUMERAL SIGNgOBOL SIGNhNE HALF SIG
Nt ALTERNATE FORMkQUARTER SIGNhUNKIA SIGNhXIAgPERISPOMENIhHI SYMBOLhI SYMBOLhROSGEGRAMMENIhSILIl AN
D OXIAqPERISPOMENIqVARIAgQUESTION MARKgREVERSED LUNATE EPSILON SYMBOLhHO SYMBOLkWITH STROKE SYMBOLg
SINUSOID SIGNhMALL DOTTED LUNATE SIGMA SYMBOLmLETTER ALPHAy WITH DASIAbj AND OXIAbs AND YPOGEGRAMME
NIboPERISPOMENIbz AND YPOGEGRAMMENIboVARIAbt AND YPOGEGRAMMENIboYPOGEGRAMMENIbeMACRONbeOXIAbi AND Y
POGEGRAMMENIbePERISPOMENIbp AND YPOGEGRAMMENIbfSILIbj AND OXIAbs AND YPOGEGRAMMENIboPERISPOMENIbz A
ND YPOGEGRAMMENIboVARIAbt AND YPOGEGRAMMENIboYPOGEGRAMMENIbeTONOSbeVARIAbj AND YPOGEGRAMMENIbfRACHY
beYPOGEGRAMMENIuRCHAIC KOPPAbbSAMPItBETAtCHItDELTAuIGAMMAtEPSILONba WITH DASIAbl AND OXIAbqVARIAbgO
XIAbgPSILIbl AND OXIAbqVARIAbgTONOSbgVARIAuTAw WITH DASIAbh AND OXIAbq AND YPOGEGRAMMENIbmPERISPOME
NIbx AND YPOGEGRAMMENIbmVARIAbr AND YPOGEGRAMMENIbmYPOGEGRAMMENIbcOXIAbg AND YPOGEGRAMMENIbcPERISPO
MENIbn AND YPOGEGRAMMENIbdSILIbh AND OXIAbq AND YPOGEGRAMMENIbmPERISPOMENIbx AND YPOGEGRAMMENIbmVAR
IAbr AND YPOGEGRAMMENIbmYPOGEGRAMMENIbcTONOSbcVARIAbh AND YPOGEGRAMMENIbcYPOGEGRAMMENItFINAL SIGMAt
GAMMAtHETAtIOTAx WITH DASIAbi AND OXIAbnPERISPOMENIbnVARIAbeIALYTIKAbm AND OXIAbrPERISPOMENIbrTONOS
brVARIAbdMACRONbdOXIAbdPERISPOMENIbeSILIbi AND OXIAbnPERISPOMENIbnVARIAbdTONOSbdVARIAbeRACHYtKAPPAu
OPPAtLAMDAtMUtNUtOMEGAy WITH DASIAbj AND OXIAbs AND YPOGEGRAMMENIboPERISPOMENIbz AND YPOGEGRAMMENIb
oVARIAbt AND YPOGEGRAMMENIboYPOGEGRAMMENIbeOXIAbi AND YPOGEGRAMMENIbePERISPOMENIbp AND YPOGEGRAMMEN
IbfSILIbj AND OXIAbs AND YPOGEGRAMMENIboPERISPOMENIbz AND YPOGEGRAMMENIboVARIAbt AND YPOGEGRAMMENIb
oYPOGEGRAMMENIbeTONOSbeVARIAbj AND YPOGEGRAMMENIbeYPOGEGRAMMENIvICRONba WITH DASIAbl AND OXIAbqVARI
AbgOXIAbgPSILIbl AND OXIAbqVARIAbgTONOSbgVARIAtPAMPHYLIAN DIGAMMAuHIuIuSItRHOw WITH DASIAbcPSILItSA
MPIvNuHOuIGMAuTIGMAtTAUuHETAtUPSILONba WITH DASIAbl AND OXIAbqPERISPOMENIbqVARIAbhIALYTIKAbp AND OX
IAbuPERISPOMENIbuTONOSbuVARIAbgMACRONbgOXIAbgPERISPOMENIbhSILIbl AND OXIAbqPERISPOMENIbqVARIAbgTONO
SbgVARIAbhRACHYtXItZETAmREVERSED DOTTED LUNATE SIGMA SYMBOLvLUNATE SIGMA SYMBOLhUBSCRIPT SMALL LETT
ER BETAbdCHIbdGAMMAbdPHIbdRHOhYMBOL TAU RHOgTALENT SIGNhHETA SYMBOLiREE OBOLS SIGNmQUARTERS SIGNhON
OShRYBLION BASE SIGNhWO OBOLS SIGNkTHIRDS SIGNgUPSILON WITH ACUTE AND HOOK SYMBOLtDIAERESIS AND HOO
K SYMBOLtHOOK SYMBOLgVARIAhOCAL NOTATION SYMBOL-1bd0bd1bd2bd3bd4bd5bd6bd7bd8bd9bc2bd0bd1bd2bd3bd4bc
3bc4bc5bd0bd1bd2bd3bd4bc6bc7bc8bc9gXESTES SIGNgYEAR SIGNhPOGEGRAMMENIgZERO SIGNeN APPLEgBOOKgHEARTg
SALADcIMACING FACEdNNING CAT FACE WITH SMILING EYESjFACEn WITH ONE LARGE AND ONE SMALL EYEtSMILIN
G EYESuTAR EYEScOUP MARKgSEPARATORdWING HEARTbSbUARANI SIGNeDSMANcIDE DOGdTARcJARATI ABBREVIATION S
IGNjDIGIT EIGHTpFIVEqOURpNINEpONEpSEVENqIXpTHREEqWOpZEROjLETTER ArArIrUqBArHAqCArHAqDArDAsHArHAqEqG
ArHAqHAqIrIqJArHAqKArHAqLArLAqMAqNArGArNArYAqOqPArHAqRAqSArHArSAqTArHArTAsHAqUrUqVArOCALIC LzLyRzRq
YAqZHAjOMjRUPEE SIGNjSIGN ANUSVARApVAGRAHAoCANDRABINDUpIRCLE NUKTA ABOVEoMADDAHoNUKTAoSHADDApUKUNoT
HREE-DOT NUKTA ABOVEpWO-CIRCLE NUKTA ABOVEoVIRAMAqSARGAjVOWEL CANDRA EwOpSIGN AAvIvUuCANDRA EbbOuEu
IvIuOuUvUuVOCALIC LbdLbcRbdRcNJALA GONDI DIGIT EIGHTuFIVEvOURuNINEuONEuSEVENvIXuTHREEvWOuZEROoLETTE
R AwAwIwUvBAwHAvCAwHAvDAwDAxHAwHAvEEvGAwHAvHAvIwIvJAwHAvKAwHAvLAwLAvMAvNAwGAvOOvPAwHAvRAvSAvTAwHAwT
AxHAvUwUvVAvYAoOMoSIGN ANUSVARAtVISARGAoVIRAMApOWEL SIGN AAbaIbaUzEEzIbaIzOOzUbaUcRMUKHI ABBREVIATI
ON SIGNkDDAKjDIGIT EIGHTpFIVEqOURpNINEpONEpSEVENqIXpTHREEqWOpZEROjEK ONKARjIRIjLETTER ArArIrUqBArHA
qCArHAqDArDAsHArHAqEEqFAqGArHAsHAqHAqIrIqJArHAqKArHAsHAqLArLAqMAqNArGArNArYAqOOqPArHAqRArRAqSArHAqT
ArHArTAsHAqUrUqVAqYAqZAjSIGN ADAK BINDIoBINDIoNUKTAoUDAAToVIRAMAqSARGAoYAKASHjTIPPIjURAjVOWEL SIG
N AAvIvUuEEuIvIuOOuUvU"

end TermAudit.CharacterName
