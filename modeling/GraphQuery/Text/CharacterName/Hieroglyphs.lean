/-!
# Names of characters: cuneiform, hieroglyphs and other large sets of signs

The table is written as `Text.characterNamed?` reads it.
-/

namespace GraphQuery
namespace Text

def hieroglyphsNames : String :=
"12000aCUNEIFORM SIGN A dTIMES A eBAD eGAN2 TENU eHA eIGI eLAGAR GUNU eMUSH eSAG cA2 cAB dTIMES ASH2
eDUN3 GUNU eGAL eGAN2 TENU eHA eIGI GUNU eIMIN eLAGAB eSHESH eU PLUS U PLUS U dGUNU cAB2 dTIMES
BALAG eGAN2 TENU eME PLUS EN eSHA3 eTAK4 cAD cAK dTIMES ERIN2 eSHITA PLUS GISH cAL dTIMES AL eDIM2
eGISH eHA eKAD3 eKI eSHE eUSH cALAN cALEPH cAMAR dTIMES SHE cAN dOVER AN dTHREE TIMES dPLUS NAGA
OPPOSING AN PLUS NAGA fSQUARED cANSHE cAPIN cARAD dTIMES KUR cARKAB cASAL2 cASH dZIDA TENU dKABA
TENU dOVER ASH TUG2 OVER TUG2 TUG2 OVER TUG2 PAP fOVER ASH hCROSSING ASH OVER ASH OVER ASH cASH2
cASHGAB cBA cBAD cBAG3 cBAHAR2 cBAL dOVER BAL cBALAG cBAR cBARA2 cBI dTIMES A eGAR eIGI GUNU cBU
dOVER BU AB fUN dCROSSING BU cBULUG dOVER BULUG cBUR cBUR2 cDA cDAG dKISIM5 TIMES A PLUS MASH fAMAR
fBALAG fBI fGA gPLUS MASH fGI fGIR2 fGUD fHA fIR gPLUS LU fKAK fLA fLU gPLUS MASH2 fLUM fNE fPAP
PLUS PAP fSI fTAK4 fU2 PLUS GIR2 fUSH cDAM cDAR cDARA3 +1 cDI cDIB cDIM dTIMES SHE cDIM2 cDIN
dKASKAL U GUNU DISH cDISH cDU dOVER DU dGUNU dSHESHIG cDUB dTIMES ESH2 cDUB2 cDUG cDUGUD cDUH cDUN
cDUN3 dGUNU eGUNU cDUN4 cDUR2 cE dTIMES PAP dOVER E NUN OVER NUN cE2 dTIMES A PLUS HA PLUS DA eGAR
eMI eSAL eSHE eU cEDIN cEGIR cEL cEN dTIMES GAN2 fTENU eME dCROSSING EN dOPPOSING EN dSQUARED cEREN
cERIN2 cESH2 cEZEN dTIMES A fPLUS LAL hTIMES LAL eAN eBAD eDUN3 GUNU gGUNU eHA fGUNU eIGI GUNU
eKASKAL fSQUARED eKU3 eLA eLAL TIMES LAL eLI eLU eU2 eUD cGA dGUNU cGA2 dTIMES A PLUS DA PLUS HA
gHA gIGI eAB2 TENU PLUS TAB eAN eASH eASH2 PLUS GAL eBAD eBAR PLUS RA eBUR fPLUS RA eDA eDI eDIM
TIMES SHE eDUB eEL fPLUS LA eEN fTIMES GAN2 TENU eGAN2 TENU eGAR eGI eGI4 fPLUS A eGIR2 PLUS SU eHA
PLUS LU PLUS ESH2 eHAL fPLUS LA eHI PLUS LI eHUB2 eIGI GUNU eISH PLUS HU PLUS ASH eKAK eKASKAL eKID
fPLUS LAL eKU3 PLUS AN eLA eME PLUS EN eMI eNUN fOVER NUN ePA eSAL eSAR eSHE fPLUS TUR eSHID eSUM
eTAK4 eU eUD fPLUS DU dOVER GA2 cGABA dCROSSING GABA cGAD dOVER GAD GAR OVER GAR cGAL dGAD OVER GAD
GAR OVER GAR cGALAM cGAM +1 cGAN2 dTENU dOVER GAN2 dCROSSING GAN2 cGAR cGAR3 cGASHAN cGESHTIN
dTIMES KUR cGI dTIMES E eU dCROSSING GI cGI4 dOVER GI4 dCROSSING GI4 cGIDIM cGIR2 dGUNU cGIR3
dTIMES A PLUS IGI eGAN2 TENU eIGI eLU PLUS IGI ePA cGISAL cGISH dCROSSING GISH dTIMES BAD eTAK4
dTENU cGU dCROSSING GU cGU2 dTIMES KAK fTIMES IGI GUNU eNUN eSAL PLUS TUG2 dGUNU cGUD dTIMES A PLUS
KUR eKUR dOVER GUD LUGAL cGUL +1 dTIMES SHE cGUR cGUR7 cGURUN cGURUSH cHA dTENU dGUNU cHAL cHI
dTIMES ASH eASH2 eBAD eDISH eGAD eKIN eNUN eSHE eU cHU cHUB2 dTIMES AN eHAL eKASKAL eLISH eUD cHUL2
cI dA cIB cIDIM dOVER IDIM BUR fSQUARED cIG cIGI dDIB dRI dOVER IGI SHIR OVER SHIR UD OVER UD dGUNU
cIL dTIMES GAN2 TENU cIL2 cIM dTIMES TAK4 dCROSSING IM dOPPOSING IM dSQUARED cIMIN cIN cIR cISH cKA
dTIMES A eAD fPLUS KU3 eASH2 eBAD eBALAG eBAR eBI eERIN2 eESH2 eGA eGAL eGAN2 TENU eGAR fPLUS SHA3
PLUS A eGI eGIR2 eGISH PLUS SAR fCROSSING GISH eGU eGUR7 eIGI eIM eKAK eKI eKID eLI eLU eME fPLUS
DU gGI gTE eMI fPLUS NUNUZ eNE eNUN ePI eRU eSA eSAR eSHA eSHE eSHID eSHU eSIG eSUHUR eTAR eU eU2
eUD eUMUM TIMES PA eUSH eZI cKA2 dCROSSING KA2 cKAB cKAD2 +3 dOVER KAD5 cKAK dTIMES IGI GUNU cKAL
dTIMES BAD dCROSSING KAL cKAM2 cKAM4 cKASKAL dLAGAB TIMES U OVER LAGAB TIMES U dOVER KASKAL LAGAB
TIMES U OVER LAGAB TIMES U cKESH2 cKI dTIMES BAD eU eUD cKID cKIN cKISAL cKISH cKISIM5 dOVER KISIM5
cKU dOVER HI TIMES ASH2 KU OVER HI TIMES ASH2 cKU3 +1 dVARIANT FORM cKU7 cKUL dGUNU cKUN cKUR
dOPPOSING KUR cKUSHU2 cKWU318 cLA cLAGAB dTIMES A fPLUS DA PLUS HA gGAR gLAL eAL eAN eASH ZIDA TENU
eBAD eBI eDAR eEN eGA eGAR eGUD fPLUS GUD eHA eHAL eHI TIMES NUN eIGI GUNU eIM fPLUS HA gLU eKI
eKIN eKU3 eKUL fPLUS HI PLUS A eLAGAB eLISH eLU eLUL eME fPLUS EN eMUSH eNE eSHE PLUS SUM eSHITA
PLUS GISH PLUS ERIN2 hTENU eSHU2 fPLUS SHU2 eSUM eTAG eTAK4 eTE PLUS A PLUS SU PLUS NA eU fPLUS A
gU PLUS U eU2 PLUS ASH eUD eUSH dSQUARED cLAGAR dTIMES SHE fPLUS SUM dGUNU eOVER LAGAR GUNU SHE
cLAHSHU cLAL dTIMES LAL cLAM dTIMES KUR fPLUS RU cLI cLIL cLIMMU2 cLISH cLU dTIMES BAD cLU2 dTIMES
AL eBAD eESH2 fTENU eGAN2 TENU eHI TIMES BAD eIM eKAD2 +1 fPLUS ASH eKI eLA PLUS ASH eLAGAB eME
PLUS EN eNE eNU eSI PLUS ASH eSIK2 PLUS BU eTUG2 dTENU dCROSSING LU2 dOPPOSING LU2 dSQUARED
dSHESHIG cLU3 cLUGAL dOVER LUGAL dOPPOSING LUGAL dSHESHIG cLUH cLUL +1 dOVER LUM fGAR OVER GAR cMA
dTIMES TAK4 dGUNU cMA2 cMAH cMAR cMASH cMASH2 cME cMES cMI cMIN cMU dOVER MU cMUG dGUNU cMUNSUB
cMURGU2 cMUSH dTIMES A eKUR eZA dOVER MUSH fTIMES A PLUS NA dCROSSING MUSH cMUSH3 dTIMES A fPLUS DI
eDI dGUNU cNA cNA2 cNAGA dINVERTED dTIMES SHU TENU dOPPOSING NAGA cNAGAR cNAM NUTILLU cNAM cNAM2
cNE dTIMES A eUD dSHESHIG cNI dTIMES E cNI2 cNIM dTIMES GAN2 TENU eGAR PLUS GAN2 TENU cNINDA2
dTIMES AN eASH fPLUS ASH eGUD eME PLUS GAN2 TENU eNE eNUN eSHE fPLUS A AN gASH hPLUS ASH eU2 PLUS
ASH eUSH cNISAG cNU cNU11 cNUN dLAGAR TIMES GAR fMASH fSAL gOVER NUN LAGAR TIMES SAL fUSH dTENU
dOVER NUN dCROSSING NUN fLAGAR OVER LAGAR cNUNUZ dAB2 TIMES ASHGAB fBI fDUG fGUD fIGI GUNU fKAD3
fLA fNE fSILA3 fU2 dKISIM5 TIMES BI gU cPA cPAD cPAN cPAP cPESH2 cPI dTIMES A eAB eBI eBU eE eI eIB
eU eU2 dCROSSING PI cPIRIG dTIMES KAL eUD eZA dOPPOSING PIRIG cRA cRAB cRI cRU cSA cSAG NUTILLU
cSAG dTIMES A eDU eDUB eHA eKAK eKUR eLUM eMI eNUN eSAL eSHID eTAB eU2 eUB eUM eUR eUSH dOVER SAG
dGUNU cSAL dLAGAB TIMES ASH2 cSANGA2 cSAR cSHA cSHA3 dTIMES A eBAD eGISH eNE eSHU2 eTUR eU fPLUS A
cSHA6 cSHAB6 cSHAR2 cSHE dHU dOVER SHE GAD OVER GAD GAR OVER GAR fTAB OVER TAB GAR OVER GAR cSHEG9
cSHEN cSHESH cSHESH2 cSHESHLAM cSHID dTIMES A eIM cSHIM dTIMES A eBAL eBULUG eDIN eGAR eIGI fGUNU
eKUSHU2 eLUL eMUG eSAL cSHINIG cSHIR dTENU dOVER SHIR BUR OVER BUR cSHITA cSHU dOVER INVERTED SHU
cSHU2 cSHUBUR cSI dGUNU cSIG cSIG4 dOVER SIG4 SHU2 cSIK2 cSILA3 cSU dOVER SU cSUD cSUD2 cSUHUR cSUM
cSUMASH cSUR cSUR9 cTA dASTERISK dTIMES HI eMI dGUNU cTAB dOVER TAB NI OVER NI DISH OVER DISH
dSQUARED cTAG dTIMES BI eGUD eSHE eSHU eTUG2 eUD cTAK4 cTAR cTE dGUNU cTI dTENU cTIL cTIR dTIMES
TAK4 dOVER TIR fGAD OVER GAD GAR OVER GAR cTU cTUG2 cTUK cTUM cTUR dOVER TUR ZA OVER ZA cU dGUD dU
U dOVER U PA OVER PA GAR OVER GAR fSUR OVER SUR fU REVERSED OVER U REVERSED cU2 cUB cUD dKUSHU2
dTIMES BAD eMI eU PLUS U PLUS U jGUNU dGUNU dSHESHIG eTIMES BAD cUDUG cUM dTIMES LAGAB eME PLUS DA
eSHA3 eU cUMBIN cUMUM dTIMES KASKAL ePA cUN dGUNU cUR dCROSSING UR dSHESHIG cUR2 dTIMES A PLUS HA
gNA eAL eHA eNUN eU2 fPLUS ASH gBI cUR4 cURI cURI3 cURU dTIMES A eASHGAB eBAR eDUN eGA eGAL eGAN2
TENU eGAR eGU eHA eIGI eIM eISH eKI eLUM eMIN ePA eSHE eSIG4 eTU eU PLUS GUD eUD eURUDA cURUDA
dTIMES U cUSH dTIMES A eKU eKUR eTAK4 cUSHX cUSH2 cUSHUMX cUTUKI cUZ3 dTIMES KASKAL cUZU cZA dTENU
dSQUARED TIMES KUR cZAG cZAMX cZE2 cZI dOVER ZI cZI3 cZIB dKABA TENU cZIG cZIZ2 cZU cZU5 dTIMES A
cZUBUR cZUM cKAP ELAMITE cAB TIMES NUN cAB2 TIMES A cAMAR TIMES KUG cDAG KISIM5 TIMES U2 PLUS MASH
cDAG3 cDISH PLUS SHU cDUB TIMES SHE cEZEN TIMES GUD eSHE cGA2 TIMES AN PLUS KAK PLUS A eASH2 cGE22
cGIG cHUSH cKA TIMES ANSHE eASH3 eGISH eGUD eHI TIMES ASH2 eLUM ePA eSHUL eTU eUR2 cLAGAB TIMES GI
cLU2 SHESHIG TIMES BAD dTIMES ESH2 PLUS LAL eSHU cMESH cMUSH3 TIMES ZA cNA4 cNIN cNIN9 cNINDA2
TIMES BAL eGI cNU11 ROTATED NINETY DEGREES cPESH2 ASTERISK cPIR2 cSAG TIMES IGI GUNU cTI2 cUM TIMES
ME cU U 12400bNUMERIC SIGN TWO ASH dTHREE ASH dFOUR ASH dFIVE ASH dSIX ASH dSEVEN ASH dEIGHT ASH
dNINE ASH dTHREE DISH dFOUR DISH dFIVE DISH dSIX DISH dSEVEN DISH dEIGHT DISH dNINE DISH dFOUR U
dFIVE U dSIX U dSEVEN U dEIGHT U dNINE U dONE GESH2 dTWO GESH2 dTHREE GESH2 dFOUR GESH2 dFIVE GESH2
dSIX GESH2 dSEVEN GESH2 dEIGHT GESH2 dNINE GESH2 dONE GESHU dTWO GESHU dTHREE GESHU dFOUR GESHU
dFIVE GESHU dTWO SHAR2 dTHREE SHAR2 fVARIANT FORM dFOUR SHAR2 dFIVE SHAR2 dSIX SHAR2 dSEVEN SHAR2
dEIGHT SHAR2 dNINE SHAR2 dONE SHARU dTWO SHARU dTHREE SHARU fVARIANT FORM dFOUR SHARU dFIVE SHARU
dSHAR2 TIMES GAL PLUS DISH hMIN dONE BURU dTWO BURU dTHREE BURU fVARIANT FORM dFOUR BURU dFIVE BURU
dTHREE VARIANT FORM ESH16 gESH21 dFOUR VARIANT FORM LIMMU gLIMMU4 gLIMMU A +1 dSIX VARIANT FORM
ASH9 dSEVEN VARIANT FORM IMIN3 gIMIN A +1 dEIGHT VARIANT FORM USSU gUSSU3 dNINE VARIANT FORM ILIMMU
gILIMMU3 +1 gILIMMU A dTWO ASH TENU dTHREE ASH TENU dFOUR ASH TENU dFIVE ASH TENU dSIX ASH TENU
dONE BAN2 dTWO BAN2 dTHREE BAN2 dFOUR BAN2 fVARIANT FORM dFIVE BAN2 fVARIANT FORM dNIGIDAMIN
dNIGIDAESH dONE ESHE3 dTWO ESHE3 dONE THIRD DISH dTWO THIRDS DISH dFIVE SIXTHS DISH dONE THIRD
VARIANT FORM A dTWO THIRDS VARIANT FORM A dONE EIGHTH ASH eQUARTER ASH dOLD ASSYRIAN ONE SIXTH
gQUARTER dONE QUARTER GUR eHALF GUR dELAMITE ONE THIRD eTWO THIRDS eFORTY eFIFTY dFOUR U VARIANT
FORM dFIVE U VARIANT FORM dSIX U VARIANT FORM dSEVEN U VARIANT FORM dEIGHT U VARIANT FORM dNINE U
VARIANT FORM 12470bPUNCTUATION SIGN OLD ASSYRIAN WORD DIVIDER dVERTICAL COLON dDIAGONAL COLON
eTRICOLON eQUADCOLON 12480bSIGN AB TIMES NUN TENU eSHU2 cAD TIMES ESH2 cBAD TIMES DISH TENU cBAHAR2
TIMES AB2 eNI eZA cBU OVER BU TIMES NA2 cDA TIMES TAK4 cDAG TIMES KUR cDIM TIMES IGI eU U U cDIM2
TIMES UD cDUG TIMES ANSHE eASH fAT LEFT eDIN eDUN eERIN2 eGA eGI eGIR2 GUNU eGISH eHA eHI eIGI GUNU
eKASKAL eKUR eKUSHU2 fPLUS KASKAL eLAK-020 eLAM fTIMES KUR eLUH PLUS GISH eMASH eMES eMI eNI ePI
eSHE eSI GUNU cE2 TIMES KUR ePAP cERIN2 X cESH2 CROSSING ESH2 cEZEN SHESHIG TIMES ASH fHI fIGI GUNU
fLA fLAL fME fMES fSU dTIMES SU cGA2 TIMES BAHAR2 eDIM GUNU eDUG TIMES IGI GUNU gKASKAL eEREN eGA
eGAR PLUS DI gNE eHA PLUS A eKUSHU2 PLUS KASKAL eLAM fTIMES KUR eLUH eMUSH eNE fPLUS E2 gGI eSHIM
eZIZ2 cGABA ROTATED NINETY DEGREES cGESHTIN TIMES U cGISH TIMES GISH CROSSING GISH cGU2 TIMES IGI
GUNU cGUD PLUS GISH TIMES TAK4 cHA TENU GUNU cHI TIMES ASH OVER HI TIMES ASH cKA TIMES BU eKA eU U
U eUR cLAGAB TIMES ZU OVER ZU cLAK-003 cLAK-021 cLAK-025 cLAK-030 cLAK-050 +1 cLAK-062 cLAK-079
OVER LAK-079 GUNU cLAK-080 cLAK-081 OVER LAK-081 cLAK-092 cLAK-130 cLAK-142 cLAK-210 cLAK-219 +1
cLAK-225 cLAK-228 cLAK-238 cLAK-265 +1 cLAK-343 cLAK-347 +1 cLAK-383 +1 cLAK-390 cLAK-441 cLAK-449
dTIMES GU eIGI ePAP PLUS LU3 gPAP PLUS LU3 eU2 PLUS BA cLAK-450 cLAK-457 cLAK-470 cLAK-483 cLAK-490
cLAK-492 +1 cLAK-495 cLAK-550 cLAK-608 cLAK-617 dTIMES ASH eBAD eDUN3 GUNU GUNU eKU3 eLA eTAR eTE
eU2 eUD eURUDA cLAK-636 cLAK-648 dTIMES DUB eGA eIGI fGUNU eNI ePAP PLUS PAP PLUS LU3 eSHESH PLUS
KI eUD eURUDA cLAK-724 cLAK-749 cLU2 GUNU TIMES ASH dTIMES DISH eHAL ePAP fPLUS PAP PLUS LU3 eTAK4
cMI PLUS ZA7 cMUSH OVER MUSH TIMES GA gKAK cNINDA2 TIMES DIM GUNU eGISH eGUL eHI eKESH2 eLAK-050
eMASH ePAP PLUS PAP eU fPLUS U eURUDA cSAG GUNU TIMES HA dTIMES EN eSHE AT LEFT eTAK4 cSHA6 TENU
cSHE OVER SHE dPLUS HUB2 eNAM2 eSAR cSHU2 PLUS DUG TIMES NI eE2 TIMES AN cSI TIMES TAK4 cTAK4 PLUS
SAG cTUM TIMES GAN2 TENU eTHREE DISH cUR2 INVERTED dTIMES UD cURU TIMES DARA3 eLAK-668 eLU3 cZA7
cZU OVER ZU PLUS SAR cZU5 TIMES THREE DISH TENU 12F90aCYPRO-MINOAN SIGN CM001 +1 cCM004 +8 cCM012B
cCM013 cCM015 cCM017 cCM019 cCM021 cCM023 +7 cCM033 +8 cCM044 cCM046 +1 cCM049 +7 cCM058 +6 cCM066
+9 cCM075B cCM076 cCM078 +14 cCM094 +11 cCM107 +3 cCM112 cCM114 cCM301 +1 13000aEGYPTIAN HIEROGLYPH
A001 +4 cA005A cA006 cA006A +1 cA007 +7 cA014A cA015 +2 cA017A cA018 +14 cA032A cA033 +7 cA040A
cA041 +1 cA042A cA043 cA043A cA044 +1 cA045A cA046 +24 cB001 +4 cB005A cB006 +3 cC001 +1 cC002A +2
cC003 +7 cC010A cC011 +13 cD001 +7 cD008A cD009 +18 cD027A cD028 +3 cD031A cD032 +2 cD034A cD035
+11 cD046A cD047 +1 cD048A cD049 +1 cD050A +8 cD051 +1 cD052A cD053 +1 cD054A cD055 +12 cD067A +7
cE001 +7 cE008A cE009 cE009A cE010 +6 cE016A cE017 cE017A cE018 +2 cE020A cE021 +7 cE028A cE029 +5
cE034A cE036 +2 cF001 cF001A cF002 +11 cF013A cF014 +7 cF021A cF022 +9 cF031A cF032 +5 cF037A cF038
cF038A cF039 +6 cF045A cF046 cF046A cF047 cF047A cF048 +3 cF051A +2 cF052 +1 cG001 +5 cG006A cG007
cG007A +1 cG008 +3 cG011A cG012 +8 cG020A cG021 +5 cG026A cG027 +9 cG036A cG037 cG037A cG038 +5
cG043A cG044 +1 cG045A cG046 +8 cH001 +5 cH006A cH007 +1 cI001 +4 cI005A cI006 +3 cI009A cI010
cI010A cI011 cI011A cI012 +3 cK001 +7 cL001 +1 cL002A cL003 +3 cL006A cL007 +1 cM001 cM001A +1
cM002 +1 cM003A cM004 +6 cM010A cM011 +1 cM012A +7 cM013 +2 cM015A cM016 cM016A cM017 cM017A cM018
+4 cM022A cM023 +1 cM024A cM025 +3 cM028A cM029 +2 cM031A cM032 +1 cM033A +1 cM034 +6 cM040A cM041
+3 cN001 +17 cN018A +1 cN019 +6 cN025A cN026 +7 cN033A cN034 cN034A cN035 cN035A cN036 +1 cN037A
cN038 +4 cNL001 +4 cNL005A cNL006 +11 cNL017A cNL018 +2 cNU001 +9 cNU010A cNU011 cNU011A cNU012 +6
cNU018A cNU019 +3 cNU022A cO001 cO001A cO002 +3 cO005A cO006 cO006A +5 cO007 +3 cO010A +2 cO011 +8
cO019A cO020 cO020A cO021 +3 cO024A cO025 cO025A cO026 +3 cO029A cO030 cO030A cO031 +2 cO033A cO034
+2 cO036A +3 cO037 +13 cO050A +1 cO051 cP001 cP001A cP002 +1 cP003A cP004 +7 cQ001 +6 cR001 +1
cR002A cR003 cR003A +1 cR004 +6 cR010A cR011 +5 cR016A cR017 +12 cS001 +1 cS002A cS003 +3 cS006A
cS007 +7 cS014A +1 cS015 +2 cS017A cS018 +8 cS026A +1 cS027 +8 cS035A cS036 +10 cT001 +2 cT003A
cT004 +3 cT007A cT008 cT008A cT009 cT009A cT010 +1 cT011A cT012 +4 cT016A cT017 +15 cT032A cT033
cT033A cT034 +2 cU001 +5 cU006A +1 cU007 +16 cU023A cU024 +5 cU029A cU030 +2 cU032A cU033 +9 cV001
cV001A +8 cV002 cV002A cV003 +4 cV007A +1 cV008 +3 cV011A +2 cV012 cV012A +1 cV013 +7 cV020A +11
cV021 +2 cV023A cV024 +4 cV028A cV029 cV029A cV030 cV030A cV031 cV031A cV032 +1 cV033A cV034 +3
cV037A cV038 +2 cV040A cW001 +2 cW003A cW004 +5 cW009A cW010 cW010A cW011 +3 cW014A cW015 +2 cW017A
cW018 cW018A cW019 +5 cW024A cW025 cX001 +3 cX004A +1 cX005 +1 cX006A cX007 +1 cX008A cY001 cY001A
cY002 +6 cZ001 +1 cZ002A +3 cZ003 cZ003A +1 cZ004 cZ004A cZ005 cZ005A cZ006 +9 cZ015A +8 cZ016
cZ016A +7 cAA001 +6 cAA007A +1 cAA008 +24 13430cVERTICAL JOINER cHORIZONTAL JOINER cINSERT AT TOP
START eBOTTOM START eTOP END eBOTTOM END cOVERLAY MIDDLE cBEGIN SEGMENT cEND SEGMENT
14400aANATOLIAN HIEROGLYPH A001 +9 cA010A cA011 +15 cA026A cA027 +12 cA039A cA040 +1 cA041A cA042
+3 cA045A cA046 cA046A +1 cA047 +19 cA066A +2 cA067 +30 cA097A cA098 cA098A cA099 +1 cA100A cA101
cA101A cA102 cA102A cA103 +1 cA104A +2 cA105 cA105A +1 cA106 +1 cA107A +2 cA108 +2 cA110A +1 cA111
+4 cA115A cA116 +9 cA125A cA126 +9 cA135A cA136 +66 cA202A +1 cA203 +4 cA207A cA208 +1 cA209A cA210
+5 cA215A cA216 cA216A cA217 +10 cA227A cA228 +39 cA267A cA268 +21 cA289A cA290 +4 cA294A cA295 +4
cA299A cA300 +9 cA309A cA310 +19 cA329A cA330 +1 cA332A +2 cA333 +3 cA336A +2 cA337 +22 cA359A
cA360 +4 cA364A cA365 +3 cA368A cA369 +2 cA371A cA372 +9 cA381A cA382 cA383 RA OR RI cA383A cA384
+2 cA386A cA387 +5 cA393 EIGHT cA394 +15 cA410 BEGIN LOGOGRAM MARK cA410A END LOGOGRAM MARK cA411
+39 cA450A cA451 +6 cA457A cA458 +39 cA501 +29 16800aBAMUM LETTER PHASE-A NGKUE MFON dGBIEE FON
dPON MFON PIPAEMGBIEE fPIPAEMBA dNAA MFON dSHUENSHUET dTITA MFON dNZA MFON dSHINDA PA NJI dPON PA
NJI PIPAEMGBIEE gPIPAEMBA dMAEMBGBIEE dTU MAEMBA dNGANGU dMAEMVEUX dMANSUAE dMVEUAENGAM dSEUNYAM
dNTOQPEN dKEUKEUTNDA dNKINDI dSUU dNGKUENZEUM dLAPAQ dLET KUT dNTAP MFAA dMAEKEUP dPASHAE
dGHEUAERAE dPAMSHAE dMON NGGEUAET dNZUN MEUT dU YUQ NAE dGHEUAEGHEUAE dNTAP NTAA dSISA dMGBASA
dMEUNJOMNDEUQ dMOOMPUQ dKAFA dPA LEERAEWA dNDA LEERAEWA dPET dMAEMKPEN dNIKA dPUP dTUAEP dLUAEP
dSONJAM dTEUTEUWEN dMAENYI dKET dNDAANGGEUAET dKUOQ dMOOMEUT dSHUM dLOMMAE dFIRI dROM dKPOQ dSOQ
dMAP PIEET dSHIRAE dNTAP dSHOQ NSHUT YUM dNYIT MONGKEUAEQ dPAARAE dNKAARAE dUNKNOWN dNGGEN dMAESI
dNJAM dMBANYI dNYET dTEUAEN dSOT dPAAM dNSHIEE dMAEM dNYI dKAQ dNSHA dVEE dLU dNEN dNAQ dMBAQ
cPHASE-B NSHUET dTU MAEMGBIEE dSIEE dSET TU dLOM NTEUM dMBA MAELEE dKIEEM dYEURAE dMBAARAE dKAM
dPEESHI dYAFU LEERAEWA dLAM NSHUT NYAM dNTIEE SHEUOQ dNDU NJAA dGHEUGHEUAEM dPIT dTU NSIEE dSHET
NJAQ dSHEUAEQTU dMFON TEUAEQ dMBIT MBAAKET dNYI NTEUM dKEUPUQ dGHEUGHEN dKEUYEUX dLAANAE dPARUM
dVEUM dNGKINDI MVOP dNGGEU MBU dWUAET dSAKEUAE dTAAM dMEUQ dNGGUOQ eLARGE dMFIYAQ dSUE dMBEURI
dMONTIEEN dNYAEMAE dPUNGAAM dMEUT NGGEET dFEUX dMBUOQ dFEE dKEUAEM dMA NJEUAENA eNJUQA dLET dNGGAAM
dNSEN dMA dKIQ dNGOM cPHASE-C NGKUE MAEMBA dNZA dYUM dWANGKUOQ dNGGEN dNDEUAEREE dNGKAQ dGHARAE
dMBEEKEET dGBAYI dNYIR MKPARAQ MEUN dNTU MBIT dMBEUM dPIRIEEN dNDOMBU dMBAA CABBAGE-TREE
dKEUSHEUAEP dGHAP dKEUKAQ dYU MUOMAE dNZEUM dMBUE dNSEUAEN dMBIT dYEUQ dKPARAQ dKAA dSEUX dNDIDA
dTAASHAE dNJUEQ dTITA YUE dSUAET dNGGUAEN NYAM dVEUX dNANSANAQ dMA KEUAERI dNTAA dNGGUON dLAP
dMBIRIEEN dMGBASAQ dNTEUNGBA dTEUTEUX dNGGUM dFUE dNDEUT dNSA dNSHAQ dBUNG dVEUAEPEN dMBERAE dRU
dNJAEM dLAM dTITUAEP dNSUOT NGOM dNJEEEE dKET dNGGU dMAESI dMBUAEM dLU dKUT dNJAM dNGOM dWUP
dNGGUEET dNSOM dNTEN dKUOP NKAARAE dNSUN dNDAM dMA NSIEE dYAA dNDAP dSHUEQ dSETFON dMBI dMAEMBA
dMBANYI dKEUSEUX dMBEUX dKEUM dMBAA PICKET dYUWOQ dNJEUX dMIEE dMUAE dSHIQ dKEN LAW eFATIGUE dNGAQ
dNAQ dLIQ dPIN dPEN dTET cPHASE-D MBUO dWAP dNJI dMFON dNJIEE dLIEE dNJEUT dNSHEE dNGGAAMAE dNYAM
dWUAEN dNGKUN dSHEE dNGKAP dKEUAETMEUN dTEUT dSHEUAE dNJAP dSUE dKET dYAEMMAE dKUOM dSAP dMFEUT
dNDEUX dMALEERI dMEUT dSEUAEQ dYEN dNJEUAEM dKEUOT MBUAE dNGKEURI dTU dGHAA dNGKYEE dFEUFEUAET
dNDEE dMGBOFUM dLEUAEP dNDON dMONI dMGBEUN dPUUT dMGBIEE dMFO dLUM dNSIEEP dMBAA dKWAET dNYET
dTEUAEN dSOT dYUWOQ dKEUM dRAEM dTEEEE dNGKEUAEQ dMFEUAE dNSIEET dKEUP dPIP dPEUTAE dNYUE dLET
dNGGAAM dMFIEE dNGGWAEN dYUOM dPAP dYUOP dNDAM dNTEUM dSUAE dKUN dNGGEUX dNGKIEE dTUOT dMEUN dKUQ
dNSUM dTEUN dMAENJET dNGGAP dLEUM dNGGUOM dNSHUT dNJUEQ dGHEUAE dKU dREN OLD dTAE dTOQ dNYI dRII
dLEEEE dMEEEE dM dSUU dMU dSHII dSHEUX dKYEE dNU dSHU dNTEE dPEE dNI dSHOQ dPUQ dMVOP dLOQ dREN
MUCH dTI dNTUU dMBAA SEVEN dSAQ dFAA cPHASE-E NDAP dTOON dMBEUM dLAP dVOM dLOON dPAA dSOM dRAQ
dNSHUOP dNDUN dPUAE dTAM dNGKA dKPEUX dWUO dSEE dNGGEUAET dPAAM dTOO dKUOP dLOM dNSHIEE dNGOP dMAEM
dNGKEUX dNGOQ dNSHUE dRIMGBA dNJEUX dPEEM dSAA dNGGURAE dMGBA dGHEUX dNGKEUAEM dNJAEMLI dMAP dLOOT
dNGGEEEE dNDIQ dTAEN NTEUM dSET dPUM dNDAA SOFTNESS dNGGUAESHAE NYAM dYIEE dGHEUN dTUAE dYEUAE dPO
dTUMAE dKEUAE dSUAEN dTEUAEQ dVEUAE dWEUX dLAAM dPU dTAAQ dGHAAMAE dNGEUREUT dSHEUAEQ dMGBEN dMBEE
dNZAQ dNKOM dGBET dTUM dKUET dYAP dNYI CLEAVER dYIT dMFEUQ dNDIAQ dPIEEQ dYUEQ dLEUAEM dFUE dGBEUX
dNGKUP dKET dMAE dNGKAAMI dGHET dFA dNTUM dPEUT dYEUM dNGGEUAE dNYI BETWEEN dNZUQ dPOON dMIEE dFUET
dNAE dMUAE dGHEUAE dFU I dMVI dPUAQ dNGKUM dKUT dPIET dNTAP dYEUAET dNGGUP dPA PEOPLE dFU CALL dFOM
dNJEE dA dTOQ dO dI dLAQ dPA PLURAL dTAA dTAQ dNDAA MY HOUSE dSHIQ dYEUX dNGUAE dYUAEN dYOQ
SWIMMING eCOVER dYUQ dYUN dKEUX dPEUX dNJEE EPOCH dPUE dWUE dFEE dVEE dLU dMI dREUX dRAE dNGUAET
dNGA dSHO dSHOQ dFU REMEDY dNA dPI dLOQ dKO dMEN dMA dMAQ dTEU dKI dMON dTEN dFAQ dGHOM cPHASE-F KA
dU dKU dEE dREE dTAE dNYI dLA dRII dRIEE dMEEEE dTAA dNDAA dNJAEM dM dSUU dSHII dSI dSEUX dKYEE
dKET dNUAE dNU dNJUAE dYOQ dSHU dYA dNSHA dPEUX dNTEE dWUE dPEE dRU dNI dREUX dKEN dNGKWAEN dNGGA
dSHO dPUAE dFOM dWA dLI dLOQ dKO dMBEN dREN dMA dMO dMBAA dTET dKPA dSAMBA dVUEQ 16A40aMRO LETTER
TA cNGI cYO cMIM cBA cDA cA cPHI cKHAI cHAO cDAI cCHU cKEAAE cOL cMAEM cNIN cPA cOO cO cRO cSHI
cTHEA cEA cWA cE cKO cLAN cLA cHAI cRI cTEK 16A60bDIGIT ZERO cONE cTWO cTHREE cFOUR cFIVE cSIX
cSEVEN cEIGHT cNINE 16A6EbDANDA bDOUBLE DANDA aTANGSA LETTER OZ cOC cOQ cOX cAZ cAC cAQ cAX cVZ cVC
cVQ cVX cEZ cEC cEQ cEX cIZ cIC cIQ cIX cUZ cUC cUQ cUX cAWZ cAWC cAWQ cAWX cUIZ cUIC cUIQ cUIX
cFINAL NG cLONG UEX cSHORT UEZ dAWX cUEC cUEZ cUEQ cUEX cUIUZ cUIUC cUIUQ cUIUX cMZ cMC cMQ cMX cKA
cKHA cGA cNGA cSA cYA cWA cPA cNYA cPHA cBA cMA cNA cHA cLA cHTA cTA cDA cRA cNHA cSHA cCA cTSA
cGHA cHTTA cTHA cXA cFA cDHA cCHA cZA 16AC0bDIGIT ZERO cONE cTWO cTHREE cFOUR cFIVE cSIX cSEVEN
cEIGHT cNINE 16AD0aBASSA VAH LETTER ENNI dKA dSE dFA dMBE dYIE dGAH dDHII dKPAH dJO dHWAH dWA dZO
dGBU dDO dCE dUWU dTO dBA dVU dYEIN dPA dWADDA dA dO dOO dU dEE dE dI 16AF0cCOMBINING HIGH TONE
dLOW TONE dMID TONE dLOW-MID TONE dHIGH-LOW TONE cFULL STOP 16B00aPAHAWH HMONG VOWEL KEEB dKEEV
dKIB dKIV dKAUB dKAUV dKUB dKUV dKEB dKEV dKAIB dKAIV dKOOB dKOOV dKAWB dKAWV dKUAB dKUAV dKOB dKOV
dKIAB dKIAV dKAB dKAV dKWB dKWV dKAAB dKAAV cCONSONANT VAU dNTSAU dLAU dHAU dNLAU dRAU dNKAU dQHAU
dYAU dHLAU dMAU dCHAU dNCHAU dHNAU dPLHAU dNTHAU dNAU dAU dXAU dCAU cMARK CIM TUB eSO eKES eKHAV
eSUAM eHOM eTAUM cSIGN VOS THOM eTSHAB CEEB dCIM CHEEM dVOS THIAB eFEEM dXYEEM NTXIV eRHO eTOV
eFAIB dVOS SEEV dMEEJ SUAB dVOS NRUA dIB YAM dXAUS dCIM TSOV ROG 16B50cDIGIT ZERO dONE dTWO dTHREE
dFOUR dFIVE dSIX dSEVEN dEIGHT dNINE 16B5BcNUMBER TENS dHUNDREDS dTEN THOUSANDS dMILLIONS dHUNDRED
MILLIONS dTEN BILLIONS dTRILLIONS 16B63cSIGN VOS LUB dXYOO dHLI dTHIRD-STAGE HLI dZWJ THAJ dHNUB
dNQIG dXIAB dNTUJ dAV dTXHEEJ CEEV dMEEJ TSEEB dTAU dLOS dMUS dCIM HAIS LUS NTOG NTOG eCUAM TSHOOJ
eTXWV fCHWV ePUB DAWB eNRES TOS 16B7DcCLAN SIGN TSHEEJ eYEEG eLIS eLAUJ eXYOOJ eKOO eHAWJ eMUAS
eTHOJ eTSAB ePHAB eKHAB eHAM eVAJ eFAJ eYAJ eTSWB eKWM eVWJ 16E40aMEDEFAIDRIN CAPITAL LETTER M dS
dV +1 dATIU dZ dKP dP dT dG dF dI dK dA dJ dE dB +1 dU dYU dL dQ dHP dNY dX dD dOE dN dR dO dAI dY
bSMALL LETTER M dS dV +1 dATIU dZ dKP dP dT dG dF dI dK dA dJ dE dB +1 dU dYU dL dQ dHP dNY dX dD
dOE dN dR dO dAI dY bDIGIT ZERO cONE cTWO cTHREE cFOUR cFIVE cSIX cSEVEN cEIGHT cNINE bNUMBER TEN
cELEVEN cTWELVE cTHIRTEEN cFOURTEEN cFIFTEEN cSIXTEEN cSEVENTEEN cEIGHTEEN cNINETEEN bDIGIT ONE
ALTERNATE FORM cTWO ALTERNATE FORM cTHREE ALTERNATE FORM bCOMMA bFULL STOP bSYMBOL AIVA
bEXCLAMATION OH 16F00aMIAO LETTER PA cBA cYI PA cPLA cMA cMHA cARCHAIC MA cFA cVA cVFA cTA cDA cYI
TTA dTA cTTA cDDA cNA cNHA cYI NNA cARCHAIC NA cNNA cNNHA cLA cLYA cLHA cLHYA cTLHA cDLHA cTLHYA
cDLHYA cKA cGA cYI KA cQA cQGA cNGA cNGHA cARCHAIC NGA cHA cXA cGHA cGHHA cTSSA cDZZA cNYA cNYHA
cTSHA cDZHA cYI TSHA dDZHA cREFORMED TSHA cSHA cSSA cZHA cZSHA cTSA cDZA cYI TSA cSA cZA cZSA cZZA
cZZSA cARCHAIC ZZA cZZYA cZZSYA cWA cAH cHHA cBRI cSYI cDZYI cTE cTSE cRTE 16F4FbSIGN CONSONANT
MODIFIER BAR bLETTER NASALIZATION bSIGN ASPIRATION cREFORMED VOICING dASPIRATION bVOWEL SIGN A dAA
dAHH dAN dANG dO dOO dWO dW dE dEN dENG dOEY dI dIA dIAN dIANG dIO dIE dII dIU dING dU dUA dUAN
dUANG dUU dUEI dUNG dY dYI dAE dAEE dERR dROUNDED ERR dER dROUNDED ER dAI dEI dAU dOU dN dNG dUOG
dYUI dOG dOER dVW dIG dEA dIONG dUI 16F8FbTONE RIGHT cTOP RIGHT cABOVE cBELOW bLETTER TONE-2 +6
cREFORMED TONE-1 +1 dTONE-4 +2 dTONE-8 16FE0aTANGUT ITERATION MARK aNUSHU ITERATION MARK aOLD
CHINESE HOOK MARK cITERATION MARK aKHITAN SMALL SCRIPT FILLER 16FF0aVIETNAMESE ALTERNATE READING
MARK CA eNHAY 18800aTANGUT COMPONENT-001 +767 1AFF0aKATAKANA LETTER MINNAN TONE-2 +3 1AFF5dTONE-7
+1 dNASALIZED TONE-1 +4 1AFFDeTONE-7 +1 1B000cARCHAIC E aHIRAGANA LETTER ARCHAIC YE aHENTAIGANA
LETTER A-1 +2 cA-WO cI-1 +3 cU-1 +4 cE-2 +4 cO-1 +2 cKA-1 +8 cKA-10 +1 cKA-KE cKI-1 +7 cKU-1 +6
cKE-1 +5 cKO-1 +2 cKO-KI cSA-1 +7 cSI-1 +5 cSU-1 +7 cSE-1 +4 cSO-1 +6 cTA-1 +3 cTI-1 +6 cTU-1 +3
cTU-TO cTE-1 +8 cTO-1 +5 cTO-RA cNA-1 +8 cNI-1 +6 cNI-TE cNU-1 +2 cNE-1 +5 cNE-KO cNO-1 +4 cHA-1 +8
cHA-10 +1 cHI-1 +6 cHU-1 +2 cHE-1 +6 cHO-1 +7 cMA-1 +6 cMI-1 +6 cMU-1 +3 cME-1 +1 cME-MA cMO-1 +5
cYA-1 +4 cYA-YO cYU-1 +3 cYO-1 +5 cRA-1 +3 cRI-1 +6 cRU-1 +5 cRE-1 +3 cRO-1 +5 cWA-1 +4 cWI-1 +4
cWE-1 +3 cWO-1 +6 cN-MU-MO-1 +1 aHIRAGANA LETTER ARCHAIC WU aKATAKANA LETTER ARCHAIC YI dYE dWU
1B150aHIRAGANA LETTER SMALL WI dWE dWO 1B164aKATAKANA LETTER SMALL WI dWE dWO dN 1BC00aDUPLOYAN
LETTER H cX cP cT cF cK +1 cB cD cV cG cR cP N cD S cF N cK M cR S cTH cSLOAN DH cDH cKK cSLOAN J
cHL cLH cRH cM +1 cJ cS cM N cN M cJ M cS J cM WITH DOT cN WITH DOT cJ WITH DOT eDOTS INSIDE AND
ABOVE cS WITH DOT fBELOW cM S cN S cJ S cS S cM N S cN M S cJ M S cS J S cJ S WITH DOT dN eS cS T
eR dP eR cT S dR S cW cWH cW R cS N dM cK R S cG R S cS K eR cA cSLOAN OW cOA cO cAOU cI cE cIE
cSHORT I cUI cEE cSLOAN EH cROMANIAN I cSLOAN EE cLONG I cYE cU cEU cXW cU N cLONG U cROMANIAN U
cUH cSLOAN U cOOH cOW cOU cWA cWO cWI cWEI cWOW cNASAL U dO dI dA cPERNIN AN dAM cSLOAN EN dAN dON
cVOCALIC M 1BC70bAFFIX LEFT HORIZONTAL SECANT cMID HORIZONTAL SECANT cRIGHT HORIZONTAL SECANT cLOW
VERTICAL SECANT cMID VERTICAL SECANT cHIGH VERTICAL SECANT cATTACHED SECANT dLEFT-TO-RIGHT SECANT
dTANGENT dTAIL dE HOOK dI HOOK dTANGENT HOOK 1BC80cHIGH ACUTE dTIGHT ACUTE dGRAVE dLONG GRAVE dDOT
dCIRCLE dLINE dWAVE dVERTICAL 1BC90cLOW ACUTE dTIGHT ACUTE dGRAVE dLONG GRAVE dDOT dCIRCLE dLINE
dWAVE dVERTICAL dARROW 1BC9CbSIGN O WITH CROSS bTHICK LETTER SELECTOR bDOUBLE MARK bPUNCTUATION
CHINOOK FULL STOP aSHORTHAND FORMAT LETTER OVERLAP cCONTINUING OVERLAP cDOWN STEP cUP STEP
1CF00aZNAMENNY COMBINING MARK GORAZDO NIZKO S KRYZHEM ON LEFT dNIZKO S KRYZHEM ON LEFT dTSATA ON
LEFT dGORAZDO NIZKO ON LEFT dNIZKO ON LEFT dSREDNE ON LEFT dMALO POVYSHE ON LEFT dPOVYSHE ON LEFT
dVYSOKO ON LEFT dMALO POVYSHE S KHOKHLOM ON LEFT dPOVYSHE S KHOKHLOM ON LEFT dVYSOKO S KHOKHLOM ON
LEFT dGORAZDO NIZKO S KRYZHEM ON RIGHT dNIZKO S KRYZHEM ON RIGHT dTSATA ON RIGHT dGORAZDO NIZKO ON
RIGHT dNIZKO ON RIGHT dSREDNE ON RIGHT dMALO POVYSHE ON RIGHT dPOVYSHE ON RIGHT dVYSOKO ON RIGHT
dMALO POVYSHE S KHOKHLOM ON RIGHT dPOVYSHE S KHOKHLOM ON RIGHT dVYSOKO S KHOKHLOM ON RIGHT dTSATA S
KRYZHEM dMALO POVYSHE S KRYZHEM dSTRANNO MALO POVYSHE dPOVYSHE S KRYZHEM eSTRANNO dVYSOKO S KRYZHEM
dMALO POVYSHE STRANNO dGORAZDO VYSOKO dZELO dON dRAVNO dTIKHAYA dBORZAYA dUDARKA dPODVERTKA dLOMKA
dKUPNAYA dKACHKA dZEVOK dSKOBA dRAZSEKA dKRYZH ON LEFT 1CF30cTONAL RANGE MARK MRACHNO fSVETLO
fTRESVETLO cMARK ZADERZHKA dDEMESTVENNY ZADERZHKA dOTSECHKA dPODCHASHIE eWITH VERTICAL STROKE
dCHASHKA ePOLNAYA dOBLACHKO dSOROCHYA NOZHKA dTOCHKA dDVOETOCHIE cATTACHING VERTICAL OMET cMARK
CURVED OMET dKRYZH cLOWER TONAL RANGE INDICATOR bPRIZNAK MODIFIER LEVEL-2 +1 dDIRECTION FLIP dKRYZH
dROG 1CF50bNEUME KRYUK dTIKHY cPARAKLIT cDVA V CHELNU cKLYUCH cZANOZHEK cSTOPITSA dS OCHKOM
cPEREVODKA dNEPOSTOYANNAYA cSTOPITSA WITH SOROCHYA NOZHKA cCHELYUSTKA cPALKA cZAPYATAYA cGOLUBCHIK
BORZY dTIKHY dMRACHNY dSVETLY dTRESVETLY cVRAKHIYA PROSTAYA dMRACHNAYA dSVETLAYA dTRESVETLAYA
dKLYUCHEVAYA PROSTAYA eMRACHNAYA eSVETLAYA eTRESVETLAYA cDOUBLE ZAPYATAYA cREVERSED CHELYUSTKA
cDERBITSA cKHAMILO cCHASHKA cPODCHASHIE cSKAMEYTSA MRACHNAYA dSVETLAYA dTRESVETLAYA dTIKHAYA
cDEMESTVENNY KLYUCH cSKAMEYTSA KLYUCHEVAYA SVETLAYA dKLYUCHENEPOSTOYANNAYA dKLYUCHEVAYA TIKHAYA
dDVOECHELNAYA PROSTAYA eSVETLAYA eNEPOSTOYANNAYA eKLYUCHEVAYA cSLOZHITIE dS ZAPYATOY dZAKRYTOE dS
KRYZHEM cKRYZH cROG cFITA cKOBYLA cZMEYTSA cSTATYA dS ZAPYATOY eKRYZHEM eZAPYATOY I KRYZHEM
eKRYZHEM I ZAPYATOY dZAKRYTAYA eS ZAPYATOY dS ROGOM eDVUMYA ZAPYATYMI eZAPYATOY I PODCHASHIEM
cPOLKULIZMY cSTATYA NEPOSTOYANNAYA cSTRELA PROSTAYA dMRACHNOTIKHAYA dKRYZHEVAYA dPOLUPOVODNAYA
dPOVODNAYA dNEPOSTOYANNAYA dKLYUCHEPOVODNAYA dKLYUCHENEPOSTOYANNAYA dTIKHAYA PUTNAYA dDVOECHELNAYA
dDVOECHELNOKRYZHEVAYA dDVOECHELNOPOVODNAYA dDVOECHELNAYA KLYUCHEVAYA dDVOECHELNOPOVODNAYA
KLYUCHEVAYA dGROMNAYA WITH SINGLE ZAPYATAYA dGROMOPOVODNAYA WITH SINGLE ZAPYATAYA dGROMNAYA
dGROMOPOVODNAYA eWITH DOUBLE ZAPYATAYA dGROMOKRYZHEVAYA ePOVODNAYA cMECHIK dPOVODNY dKLYUCHEVOY
dKLYUCHEPOVODNY dKLYUCHENEPOSTOYANNY cSTRELA TRYASOGLASNAYA dTRYASOPOVODNAYA dTRYASOSTRELNAYA
cOSOKA dSVETLAYA dTRESVETLAYA dKRYUKOVAYA SVETLAYA dKLYUCHEVAYA SVETLAYA eNEPOSTOYANNAYA cSTRELA
KRYUKOVAYA ePOVODNAYA eGROMNAYA WITH SINGLE ZAPYATAYA eGROMOPOVODNAYA WITH SINGLE ZAPYATAYA
eGROMNAYA eGROMOPOVODNAYA fWITH DOUBLE ZAPYATAYA eGROMOKRYZHEVAYA fPOVODNAYA eTRYASKA cKUFISMA
cOBLAKO cDUDA cNEMKA cPAUK"

end Text
end GraphQuery
