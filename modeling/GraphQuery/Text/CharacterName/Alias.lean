/-!
# Further names of characters

Names of control characters, corrected names and abbreviations, written as `Text.characterNamed?` reads
them.
-/

namespace GraphQuery
namespace Text

def aliasNames : String :=
"0aNUL 0aNULL aSOH 1aSTART OF HEADING cTEXT 2aSTX aEND OF TEXT 3aETX aEND OF TRANSMISSION 4aEOT aENQ
5aENQUIRY aACK 6aACKNOWLEDGE aALERT 7aBEL aBACKSPACE 8aBS aCHARACTER TABULATION 9aHORIZONTAL
TABULATION 9aHT 9aTAB aEND OF LINE AaEOL AaLF AaLINE FEED AaNEW LINE AaNL aLINE TABULATION
BaVERTICAL TABULATION BaVT aFF CaFORM FEED aCARRIAGE RETURN DaCR aLOCKING-SHIFT ONE EaSHIFT OUT
EaSO aLOCKING-SHIFT ZERO FaSHIFT IN FaSI aDATA LINK ESCAPE 10aDLE aDC1 11aDEVICE CONTROL ONE aDC2
12aDEVICE CONTROL TWO aDC3 13aDEVICE CONTROL THREE aDC4 14aDEVICE CONTROL FOUR aNAK 15aNEGATIVE
ACKNOWLEDGE aSYN 16aSYNCHRONOUS IDLE aEND OF TRANSMISSION BLOCK 17aETB aCAN 18aCANCEL aEND OF
MEDIUM 19aEOM aSUB 1AaSUBSTITUTE aESC 1BaESCAPE aFILE SEPARATOR 1CaFS 1CaINFORMATION SEPARATOR FOUR
aGROUP SEPARATOR 1DaGS 1DaINFORMATION SEPARATOR THREE cTWO 1EaRECORD SEPARATOR 1EaRS aINFORMATION
SEPARATOR ONE 1FaUNIT SEPARATOR 1FaUS aSP 7FaDEL 7FaDELETE aPAD 80aPADDING CHARACTER aHIGH OCTET
PRESET 81aHOP aBPH 82aBREAK PERMITTED HERE aNBH 83aNO BREAK HERE aIND 84aINDEX aNEL 85aNEXT LINE
aSSA 86aSTART OF SELECTED AREA aEND OF SELECTED AREA 87aESA aCHARACTER TABULATION SET 88aHORIZONTAL
TABULATION SET 88aHTS aCHARACTER TABULATION WITH JUSTIFICATION 89aHORIZONTAL TABULATION WITH
JUSTIFICATION 89aHTJ aLINE TABULATION SET 8AaVERTICAL TABULATION SET 8AaVTS aPARTIAL LINE DOWN
8BcFORWARD 8BaPLD aPARTIAL LINE BACKWARD 8CcUP 8CaPLU aREVERSE INDEX 8DbLINE FEED 8DaRI aSINGLE
SHIFT TWO 8EaSINGLE-SHIFT-2 8EaSS2 aSINGLE SHIFT THREE 8FaSINGLE-SHIFT-3 8FaSS3 aDCS 90aDEVICE
CONTROL STRING aPRIVATE USE ONE 91bUSE-1 91aPU1 aPRIVATE USE TWO 92bUSE-2 92aPU2 aSET TRANSMIT
STATE 93aSTS aCANCEL CHARACTER 94aCCH aMESSAGE WAITING 95aMW aSPA 96aSTART OF GUARDED AREA
96cPROTECTED AREA aEND OF GUARDED AREA 97cPROTECTED AREA 97aEPA aSOS 98aSTART OF STRING aSGC
99aSINGLE GRAPHIC CHARACTER INTRODUCER aSCI 9AaSINGLE CHARACTER INTRODUCER aCONTROL SEQUENCE
INTRODUCER 9BaCSI aST 9CaSTRING TERMINATOR aOPERATING SYSTEM COMMAND 9DaOSC aPM 9EaPRIVACY MESSAGE
aAPC 9FaAPPLICATION PROGRAM COMMAND aNBSP ADaSHY 1A2aLATIN CAPITAL LETTER GHA bSMALL LETTER GHA
34FaCGJ 61CaALM 709aSYRIAC SUBLINEAR COLON SKEWED LEFT CDEaKANNADA LETTER LLLA E9DaLAO LETTER FO
FON E9FdFAY EA3cRO EA5cLO FD0aTIBETAN MARK BKA- SHOG GI MGO RGYAN 11ECaHANGUL JONGSEONG
YESIEUNG-KIYEOK cYESIEUNG-SSANGKIYEOK cSSANGYESIEUNG cYESIEUNG-KHIEUKH 180BaFVS1 +2 aMVS aFVS4
200BaZWSP aZWNJ aZWJ aLRM aRLM 202AaLRE aRLE aPDF aLRO aRLO aNNBSP 205FaMMSP aWJ 2066aLRI aRLI aFSI
aPDI 2118aWEIERSTRASS ELLIPTIC FUNCTION 2448aMICR ON US SYMBOL bDASH SYMBOL 2B7AaLEFTWARDS
TRIANGLE-HEADED ARROW WITH DOUBLE VERTICAL STROKE 2B7CaRIGHTWARDS TRIANGLE-HEADED ARROW WITH DOUBLE
VERTICAL STROKE A015aYI SYLLABLE ITERATION MARK AA6EaMYANMAR LETTER KHAMTI LLA FE18aPRESENTATION
FORM FOR VERTICAL RIGHT WHITE LENTICULAR BRACKET FEFFaBOM FEFFaBYTE ORDER MARK FEFFaZWNBSP
122D4aCUNEIFORM SIGN NU11 TENU dOVER NU11 BUR OVER BUR 16E56aMEDEFAIDRIN CAPITAL LETTER H dNG
16E76bSMALL LETTER H dNG 1B001aHENTAIGANA LETTER E-1 1D0C5aBYZANTINE MUSICAL SYMBOL FTHORA SKLIRON
CHROMA VASIS FE00aVS1 +8 aVS10 +6 E0100aVS17 +82 aVS100 +156"

end Text
end GraphQuery
