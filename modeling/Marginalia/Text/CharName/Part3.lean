/-!
# Names of characters from 0x2bcb to 0x106ff

The names of Unicode 14 in the packed form that `CharName.seek` reads.
-/

namespace Marginalia

namespace CharName

/-- The packed names of these characters. -/
def part3 : List String :=
  ["=2BCB,0BOTTOM HeF B$CK ;i,0Lf F%R POhToB$CK CUSP,0^&ToLf F%R POhToB$CK CUSP,0W|TtF%R POhToCU",
    "SP,0^&ToW|TtF%R POhToCUSP,0SQUdtPO:sl h<CAT+,0UNCj&hTYmw,0GR%P MdK,0PLUTOg TWO,CHvE,BF%R,CIV",
    "E,0TRkSPLUTO,0P^SjPhA,0ASTzEA,0HYGIEA,0PHOLUS,0NESSUS,0W|TtMOlmEiNA,0B$CK <AMl.l C^SS,0TRUtL",
    "f MOl d&,0CUPIDO,0uDES,0ZEUS,0KRlOS,0APOLLl,1D_TOS,0VULCkUS,0POSEIDl,0iFyHeF B$CKmTd,0Rf HeF",
    " B$CKmTd,0STdbiFyHeF B$CK,ARf HeF B$CK,0iFTWdD!TWO-*ADodRrbTRIkGi dRr*ADS,0UPWdD!TWO-*ADodRr",
    "bTRIkGi dRr*ADS,0RfWdD!TWO-*ADodRrbTRIkGi dRr*ADS,0DrNWdD!TWO-*ADodRrbTRIkGi dRr*ADS,0jISg l",
    "E,ATWO,0SEDNA,0RUS:k AST^LOGICem> VIGhsi,SNOVIi,SQUhsi,SBhOVIi,SSq&Gl,STvDECIi,0EQUeSmwbhFhI",
    "TY BELr,0UNITEDm>,0SEPdATEDm>,0D%BiDm>,0PASSEDm>,0vVjSoRf kGi,0*LLSCHvIBj PAUSEm>,0G$GOLIsC ",
    "caAZU,QBUKY,QVEDE,QG$GOLI,QDOB^,QYESTU,QZ|VETE,QDZELO,QZEMLJA,QIZ*,RNIse IZ*,R,QDJjVI,QKAKO,",
    "QLJU<JE,QMYSLITE,QNAS|,QlU,QPOKOJI,QRIT:,QSLOVO,QTVRIDO,QUKU,QFRITU,QHjU,QOTU,QPE,QSH&,QT:,Q",
    "CHRIVI,QSu,QYjU,TI,RAs,QSPIDjY u,QYU,Q?eL YUS,Zb&IL,QYO,QIO&TEDmMeL YUS,QBIG YUS,QIO&ToBIG Y",
    "US,QFI&,QIZ|TSA,QSH&PIC,QT^KU&Ss A,Q$ThATtMYSLITE,QCAUDATtCHRIVI,B?eaAZU,OBUKY,OVEDE,OG$GOLI",
    ",ODOB^,OYESTU,OZ|VETE,ODZELO,OZEMLJA,OIZ*,PNIse IZ*,P,ODJjVI,OKAKO,OLJU<JE,OMYSLITE,ONAS|,Ol",
    "U,OPOKOJI,ORIT:,OSLOVO,OTVRIDO,OUKU,OFRITU,OHjU,OOTU,OPE,OSH&,OT:,OCHRIVI,OSu,OYjU,RI,PAs,OS",
    "PIDjY u,OYU,O?eL YUS,Xb&IL,OYO,OIO&TEDmMeL YUS,OBIG YUS,OIO&ToBIG YUS,OFI&,OIZ|TSA,OSH&PIC,O",
    "T^KU&Ss A,O$ThATtMYSLITE,OCAUDATtCHRIVI,0$Th caLbD%Bi Bd,6?eaLbD%Bi Bd,6caLbMIDDi sLDE,LPbST",
    "^KE,LRb&IL,6?eaAbST^KE,JTb<AGlemT^KE,6caHbDESCqDj,6?eaHbDESCqDj,6caKbDESCqDj,6?eaKbDESCqDj,6",
    "caZbDESCqDj,6?eaZbDESCqDj,6caePu,LMbHOOK,LTURNoA,TLPu,6?eaVbRf HOOK,6caWbHOOK,6?eaWbHOOK,JVb",
    "CURL,6caHeF H,6?eaHeF H,J&ILiS!P|,JEbNOTCH,JTURNoRb&IL,JObLr RhG h:DE,6iTTjmMeL cL TURNoE,6S",
    "UBSCRIPTmMeaJ,0MO<FIj iTTj cL V,0$Th caSbSWASH &IL,LZbSWASH &IL,0COPsC caeFA,7?eaeFA,7caVIDA",
    ",7?eaVIDA,7caGAM~,7?eaGAM~,7caDeDA,7?eaDeDA,7caEIE,7?eaEIE,7caS%,7?eaS%,7caZA&,7?eaZA&,7cauT",
    "E,7?eauTE,7caxExE,7?eaxExE,7caIAUDA,7?eaIAUDA,7caKAPA,7?eaKAPA,7ca$U$,7?ea$U$,7caMI,7?eaMI,7",
    "caNI,7?eaNI,7caK:,7?eaK:,7caO,7?eaO,7caPI,7?eaPI,7ca^,7?ea^,7ca:~,7?ea:~,7ca&U,7?ea&U,7caUA,",
    "7?eaUA,7caFI,7?eaFI,7caK|,7?eaK|,7caP:,7?eaP:,7caO%,7?eaO%,7ca<eECT-P eEF,7?ea<eECT-P eEF,7c",
    "aOL.COPsC Ah,7?eaOL.COPsC Ah,7caCRYPTOGzMMIC EIE,7?eaCRYPTOGzMMIC EIE,7ca<eECT-P KAPA,7?ea<e",
    "ECT-P KAPA,7ca<eECT-P NI,7?ea<eECT-P NI,7caCRYPTOGzMMIC NI,7?eaCRYPTOGzMMIC NI,7caOL.COPsC O",
    "%,7?eaOL.COPsC O%,7caSAMPI,7?eaSAMPI,7caC^SSEDm*I,7?eaC^SSEDm*I,7caOL.COPsCm*I,7?eaOL.COPsCm",
    "*I,7caOL.COPsC ESH,7?eaOL.COPsC ESH,7caAKHMIMIC K*I,7?eaAKHMIMIC K*I,7ca<eECT-P H+I,7?ea<eEC",
    "T-P H+I,7caOL.COPsC H+I,7?eaOL.COPsC H+I,7caOL.COPsC u,7?eaOL.COPsC u,7caL-SuPou,7?eaL-SuPou",
    ",7caOL.COPsC *I,7?eaOL.COPsC *I,7caOL.COPsC uT,7?eaOL.COPsC uT,7caOL.COPsC GkGIA,7?eaOL.COPs",
    "C GkGIA,7caOL.COPsC DJA,7?eaOL.COPsC DJA,7caOL.COPsCm|~,7?eaOL.COPsCm|~,7caOL.NUBIkm|~,7?eaO",
    "L.NUBIkm|~,7caOL.NUBIk NGI,7?eaOL.NUBIk NGI,7caOL.NUBIk NYI,7?eaOL.NUBIk NYI,7caOL.NUBIk WAU",
    ",7?eaOL.NUBIk WAU,8> KAI,EMI ^,EPI ^,ES&U^S,E&U ^,EK| ^,ES|~mI~,7caCRYPTOGzMMICm*I,7?eaCRYPT",
    "OGzMMICm*I,7caCRYPTOGzMMIC GkGIA,7?eaCRYPTOGzMMIC GkGIA,7COMBhhG NIn,HSPIRITU!ASPj,QiNIS,8AP",
    "I&aBOuIRIC K*I,7?eaBOuIRIC K*I,=2CF9,7OL.NUBIk FULLmTOP,I<vCyQUESsl MdK,Ih<vCyQUESsl MdK,IVj",
    "St<VIDj,7FzCsl ltHeF,8ULLmTOP,7M+PHOLOGICe <VIDj,0GE+GIkmMeak,MBk,MGk,MDl,Mq,MVh,MZq,MTk,Mh,",
    "MKk,M$S,MMk,MNd,Ml,MPd,MZHd,MzE,MSk,MTd,MUN,MPHd,MKHd,MGHk,MQd,MSHh,MCHh,Nk,MJIL,MCIL,NHd,MX",
    "k,MJHk,MuE,NE,NIE,MWE,MHd,NOE,=2D27,MYN,=2D2D,MAq,=2D30,0sFhAGH iTTj YA,IB,JH,IG,JHH,GBjBj A",
    "CADEMY YAJ,GYAJ,ID,JH,JD,KH,HEY,HAF,IK,GTUdEG YAK,GYAKHH,IH,GBjBj ACADEMY YAH,GTUdEG YAH,GYA",
    "HH,IA,IKH,GTUdEG YAKH,GYAQ,GTUdEG YAQ,GYI,HAZH,GAuGGd YAZH,GTUdEG YAZH,GYe,IM,IN,GTUdEG YAGN",
    ",PNG,GYAP,HU,Hd,JR,IGH,GTUdEG YAGH,GAYj YAGH,GYAS,JS,JH,IT,JH,ICH,ITT,IV,IW,IY,IZ,G&WELi_yYA",
    "Z,GYAZZ,HE,HO,=2D6F,9MO<FIj iTTj $BIeIZAsl MdK,9SEPdAT+ MdK,=2D7F,9ClSlkyJOhj,0ExIOPICmYL$Bi",
    " LOA,IMOA,I^A,ISOA,JHOA,IBOA,ITOA,ICOA,INOA,JYOA,IGLOTTe OA,IZOA,IDOA,JDOA,IJOA,IxOA,ICHOA,I",
    "PHOA,JOA,IGGWA,LI,LEE,M,=2DA0,ISSA,KU,KI,KAA,KEE,L,KO,=2DA8,ICCA,KU,KI,KAA,KEE,L,KO,=2DB0,IZ",
    "ZA,KU,KI,KAA,KEE,L,KO,=2DB8,ICCu,LU,LI,LAA,LEE,M,LO,=2DC0,IQYA,KU,KI,KAA,KEE,L,KO,=2DC8,IKYA",
    ",KU,KI,KAA,KEE,L,KO,=2DD0,IXYA,KU,KI,KAA,KEE,L,KO,=2DD8,IGYA,KU,KI,KAA,KEE,L,KO,=2DE0,0COMBh",
    "hG CYRILLIC iTTj BE,QVE,QG*,QDE,QZ*,RE,QKA,QEL,RM,RN,QO,QPE,Qj,RS,QTE,Qu,QTSE,QC*,QSu,SCu,QF",
    "I&,QES-TE,QA,QIE,QDJjV,QMlOGzPH UK,QYAT,RU,QIOsFIoA,QLITTi YUS,QBIG YUS,QIOsFIoBIG YUS,0Rf k",
    "GimUBSsTUsl MdKj,CDOTTEDmUBSsTUsl MdKj,0iFTmUBSsTUsl BzCKET,0RfmUBSsTUsl BzCKET,0iFyDOTTEDmU",
    "BSsTUsl BzCKET,0Rf DOTTEDmUBSsTUsl BzCKET,1AISohTjPO$sl MdKj,7DOTTohTjPO$sl MdKj,0DOTToTRkSP",
    "O:sl MdKj,0iFyTRkSPO:sl BzCKET,0Rf TRkSPO:sl BzCKET,1AISEDmQUdE,0iFyzISoOMIS:l BzCKET,0Rf zI",
    "SoOMIS:l BzCKET,0E<T+Ie C+lIS,0PdAGzPHOS,0F+KoPdAGzPHOS,0vVjSoF+KoPdAGzPHOS,0HYPO<ASTOi,0DOT",
    "ToOBELOS,2WNWdD!kCOz,0UPWdD!kCOz,0DOTToRf-POhThG kGi,2UBi OBLIQUtHYPHq,0hVjTohTj^BkG,0PeM BR",
    "kCH,0HYPHqb<AjE:S,0sLDEbRhGn,0iFyLr PdAPHzStBzCKET,0Rf Lr PdAPHzStBzCKET,0sLDEbDOTn,FBELr,0i",
    "FyVjsCe BdbQUILL,0Rf VjsCe BdbQUILL,0TOP iFyHeF BzCKET,4Rf HeF BzCKET,0BOTTOM iFyHeF BzCKET,",
    "7Rf HeF BzCKET,0iFTmIDEWAY!U BzCKET,0RfmIDEWAY!U BzCKET,0iFyD%Bi PdqxE:S,0Rf D%Bi PdqxE:S,0T",
    "WO DOT!OVj ltDOyPUNCTUAsl,0ltDOyOVj TWO DOT!PUNCTUAsl,0SQUdoF%R DOyPUNCTUAsl,0FIVtDOyMdK,0vV",
    "jSoQUESsl MdK,0VjsCe sLDE,0RhG POhT,0W+DmEPdAT+ MIDDi DOT,0TURNoCOM~,0zISoDOT,7COM~,0TURNEDm",
    "EMICOLl,0DAGGjbiFyGUdD,CRf GUdD,0TURNoDAGGj,1OP HeFmECslmw,1WO-EM DASH,1HvE-EM DASH,0STqOGzP",
    "|C FULLmTOP,0VjsCemIX DOTS,0WIGGLY VjsCe LhE,0CAPITULUM,0D%Bi HYPHq,0vVjSoCOM~,0D%Bi Lr-vVjS",
    "ED-9 QUO&sl MdK,1ASHbiFyUPTURN,1%BimUSPq:l MdK,0hVjToLr KAVYKA,JbKAVYKAn,0Lr KAVYKA,AbDOT,0D",
    "%Bim&CKoCOM~,2TTEDmOLIDUS,0TRIPi DAGGj,0_<EVe COM~,0PdAGzPHU!MdK,1UNCTU!EiVATU!MdK,0C+NISH V",
    "jSt<VIDj,1^S!PATTYbRf C^SSBd,HiFyC^SSBd,0sRlIkmw cL ET,0_<EVe EXC$~sl MdK,9QUESsl MdK,0iFTmQ",
    "UdtBzCKETbST^KE,0RfmQUdtBzCKETbST^KE,0iFTmQUdtBzCKETbD%BimT^KE,0RfmQUdtBzCKETbD%BimT^KE,0TOP",
    " HeF iFyPdqxE:S,9Rf PdqxE:S,0BOTTOM HeF iFyPdqxE:S,CRf PdqxE:S,0OBLIQUtHYPHq,=2E80,0CJK z<Ce",
    " vPEAT,CCLIFF,CSECl.lE,JTWO,KHvE,CPjSl,CBOX,C&Bi,CKNIFtlE,ITWO,C<VhAsl,CSEe,DMeL lE,ITWO,C$M",
    "tlE,HTWO,IHvE,HF%R,CSNAKE,CxvAD,CSN%ylE,ITWO,C*dylE,ITWO,DkD,CzP,=2E9B,CCHOKE,CSUN,CMOl,CDEA",
    "x,CMOxj,CCIVILIk,CWATj lE,ITWO,CFIv,CPAW lE,GTWO,C:MPLIFIoHeF TvtTRUNK,CCr,CDOG,CJADE,CBOLyO",
    "F CLOx,CEYE,CSPIRIylE,JTWO,CBAMBOO,C:LK,CC-:MPLIFIEDmILK,CNEylE,GTWO,HHvE,GF%R,C_SH,CS*EP,Cz",
    "M,CEWE,COLD,CBRUSH lE,ITWO,C_AT,D+Td,CGzS!lE,ITWO,JHvE,CsGj,CCLOxES,CWESylE,HTWO,CC-:MPLIFIE",
    "DmEE,C:MPLIFIoH+N,CH+N,CC-:MPLIFIEDmPEECH,Q*LL,CFOOT,CC-:MPLIFIoCdT,C:MPLIFIoWeK,CWeK lE,HTW",
    "O,CCITY,D-:MPLIFIoGOLD,CLlG lE,HTWO,CC-:MPLIFIoLlG,PGATE,CM%N.lE,ITWO,Czh,CBLUE,CC-:MPLIFIoT",
    "kNoiAxj,PiAF,PWhD,PFLY,CEAylE,GTWO,HHvE,CC-:MPLIFIoEAT,C*AD,CC-:MPLIFIoH+SE,CBlE,CGHOST,CC-:",
    "MPLIFIoFISH,PBIRD,PSeT,C:MPLIFIoW*AT,NYELLr,CC-:MPLIFIoF^G,CJ-:MPLIFIoEVq,CC-:MPLIFIoEVq,CJ-",
    ":MPLIFIoTOOx,CC-:MPLIFIoTOOx,CJ-:MPLIFIoDzGl,CC-:MPLIFIoDzGl,CTURTi,CJ-:MPLIFIoTURTi,CC-:MPL",
    "IFIoTURTi,=2F00,0KkGXI z<Ce lE,FLhE,FDOT,FS$SH,GEClD,FHOOK,FTWO,FLID,FMk,FiGS,FqTj,Gf,FDrN B",
    "OX,FCOVj,FICE,F&Bi,FOPq BOX,FKNIFE,FPrj,FWzP,FSPOl,FRf OPq BOX,F|DhG qCLOSUv,FTq,F<VhAsl,FSE",
    "e,FCLIFF,FPRIVATE,FAGAh,FM%x,FqCLOSUv,Gdx,FSCHOLd,FGO,HmLrLY,FEVqhG,FBIG,FWOMk,FC|LD,F^OF,Fh",
    "CH,F?eL,F$_,FC+PSE,FSPR%T,FM%N&h,FRIVj,FW+K,FlESELF,FTURBk,FDRY,FSH+yxvAD,FDOTToCLIFF,FLlGmT",
    "RIDE,FTWO HkDS,FSHOOT,FBr,FSN%T,FBRISTi,FSTEP,F*dT,GeBjD,FDO+,FHkD,FBRkCH,FzP,FSCRIPT,F<PPj,",
    "FAXE,FSQUdE,FNOT,FSUN,GAY,FMOl,FTvE,F$CK,FSTOP,FDEAx,FWEAPl,FDO NOT,FCOMPdE,FFUR,FCLk,FSTEAM",
    ",FWATj,FFIv,FC$W,FFAxj,FD%Bi X,FHeF TvtTRUNK,FSLICE,FFkG,FCr,FDOG,FP^F%ND,FJADE,F_Ll,Fsi,FSW",
    "EET,FLIFE,FUSE,FFIELD,FBOLyOF CLOx,F:CKNESS,FDOTToTqT,FW|TE,FSKh,F<SH,FEYE,FSPEd,FdRr,FSTlE,",
    "GPIRIT,FTzCK,FGzh,FCAVE,FSTkD,FBAMBOO,FRICE,F:LK,FJd,FNET,FS*EP,FFEAxj,FOLD,FkD,FPLr,FEd,FBR",
    "USH,F_AT,GhISTj,FSELF,FdRIVE,FM+Td,FTlGUE,FOPPOSE,FBOAT,FSTOPPhG,FCOL+,FGzSS,FsGj,FhSECT,FBL",
    "OOD,FWeK qCLOSUv,FCLOxES,FWEST,FSEE,FH+N,FSPEECH,FVeiY,FBEk,FPIG,FBADGj,FS*LL,FvD,GUN,FFOOT,",
    "FBODY,FCdT,FBITTj,FM+NhG,FWeK,FCITY,FWhE,F<SThGUISH,FVIL$GE,FGOLD,FLlG,FGATE,FM%ND,FS$VE,GH+",
    "y&Ii.BIRD,Fzh,FBLUE,FWRlG,FFACE,FiAxj,FTkNoiAxj,FiEK,FS%ND,FiAF,FWhD,FFLY,FEAT,F*AD,FFzGRkT,",
    "FH+SE,FBlE,FTeL,FuIR,FFf,FSACRIFICIe WhE,FCAULDRl,FGHOST,FFISH,FBIRD,FSeT,FDEj,FW*AT,F*MP,FY",
    "ELLr,FMILiT,FB$CK,FEMB^IDjY,FF^G,FTRIPOD,FDRUM,FzT,FNOSE,FEVq,FTOOx,FDzGl,FTURTi,FFLUTE,=2FF",
    "0,0IDEOGzP|C DESCRIPsl CHdACTj iFyTO Rf,YABOVtTO BELr,YiFyTO MIDDi k.Rf,YABOVtTO MIDDi k.BEL",
    "r,YFULLmURR%ND,YSURR%N.F^Mn,mBELr,miFT,mUPPj iFT,sRf,mLrj iFT,YOVj$ID,=3000,CSPACE,CCOM~,CFU",
    "LLmTOP,0<TTO MdK,0JAPkESthDUSTRIemTkDdDm>,0IDEOGzP|C ITjAsl MdK,CCLOShG MdK,CNUMBj ZjO,0iFyk",
    "Gi BzCKET,0Rf kGi BzCKET,0iFyD%Bi kGi BzCKET,0Rf D%Bi kGi BzCKET,0iFyC+Nj BzCKET,0Rf C+Nj Bz",
    "CKET,0iFyW|TtC+Nj BzCKET,0Rf W|TtC+Nj BzCKET,0iFyB$CK iNsCULd BzCKET,0Rf B$CK iNsCULd BzCKET",
    ",0POSTe MdK,0GE& MdK,0iFyT+TOISEm*LL BzCKET,0Rf T+TOISEm*LL BzCKET,0iFyW|TtiNsCULd BzCKET,0R",
    "f W|TtiNsCULd BzCKET,0iFyW|TtT+TOISEm*LL BzCKET,0Rf W|TtT+TOISEm*LL BzCKET,0iFyW|TEmQUdtBzCK",
    "ET,0Rf W|TEmQUdtBzCKET,0WAVtDASH,0vVjSoD%Bi PRIMtQUO&sl MdK,0D%Bi PRIMtQUO&sl MdK,0Lr D%Bi P",
    "RIMtQUO&sl MdK,0POSTe MdK FACE,0HkGZH% NUMje lE,HTWO,IHvE,HF%R,IIVE,H:X,IEVq,HEf,HNhE,0IDEOG",
    "zP|C iVEL TltMdK,CRIShG TltMdK,CDEPdThG TltMdK,CqTjhG TltMdK,0HkGULmhGi DOyTltMdK,7D%Bi DOyT",
    "ltMdK,0WAVY DASH,0VjsCe KkA vPEAyMdK,LWIx VOICEDm%N.MdK,LMdK UPPj HeF,LWIx VOICEDm%N.MdK UPP",
    "j HeF,LMdK Lrj HeF,0;i.POSTe MdK,0IDEOGzP|C TEiGzPH LhtFEEDmEPdAT+m>,0HkGZH% NUMje Tq,IWqTY,",
    "I|RTY,0VjsCe IDEOGzP|C ITjAsl MdK,0~SU MdK,0PdyeTjNAsl MdK,0IDEOGzP|C VdIAsl h<CAT+,CHeF FIL",
    "LmPACE,=3041,0|zGkA iTTjmMeL A,GA,G?eL I,GI,G?eL U,GU,G?eL E,GE,G?eL O,GO,GKA,GGA,GKI,GGI,GK",
    "U,GGU,GKE,GGE,GKO,GGO,GSA,GZA,G:,GZI,GSU,GZU,GSE,GZE,GSO,GZO,G&,GDA,Gs,G<,G?eL TU,GTU,GDU,GT",
    "E,GDE,GTO,GDO,GNA,HI,HU,HE,HO,Gu,GBA,GPA,G|,GBI,GPI,GHU,GBU,GPU,G*,GBE,GPE,GHO,GBO,GPO,G~,HI",
    ",HU,HE,HO,G?eL YA,GYA,G?eL YU,GYU,G?eL YO,GYO,Gz,HI,HU,HE,HO,G?eL WA,GWA,HI,HE,HO,GN,GVU,G?e",
    "L KA,NE,=3099,0COMBhhG KA&KkA-|zGkA VOICEDm%N.MdK,SSEMI-VOICEDm%N.MdK,0KA&KkA-|zGkA VOICEDm%",
    "N.MdK,ISEMI-VOICEDm%N.MdK,0|zGkA ITjAsl MdK,9VOICoITjAsl MdK,9<GzPH Y+I,0KA&KkA-|zGkA D%Bi H",
    "YPHq,8 iTTjmMeL A,GA,G?eL I,GI,G?eL U,GU,G?eL E,GE,G?eL O,GO,GKA,GGA,GKI,GGI,GKU,GGU,GKE,GGE",
    ",GKO,GGO,GSA,GZA,G:,GZI,GSU,GZU,GSE,GZE,GSO,GZO,G&,GDA,Gs,G<,G?eL TU,GTU,GDU,GTE,GDE,GTO,GDO",
    ",GNA,HI,HU,HE,HO,Gu,GBA,GPA,G|,GBI,GPI,GHU,GBU,GPU,G*,GBE,GPE,GHO,GBO,GPO,G~,HI,HU,HE,HO,G?e",
    "L YA,GYA,G?eL YU,GYU,G?eL YO,GYO,Gz,HI,HU,HE,HO,G?eL WA,GWA,HI,HE,HO,GN,GVU,G?eL KA,NE,GVA,H",
    "I,HE,HO,9MIDDi DOT,8-|zGkA P^LlGEDm%N.MdK,8 ITjAsl MdK,9VOICoITjAsl MdK,9<GzPH KOTO,=3105,0B",
    "OPOMOFO iTTj B,GP,GM,GF,GD,GT,GN,GL,GG,GK,GH,GJ,GQ,GX,GZH,GCH,GSH,GR,GZ,GC,GS,GA,GO,GE,HH,GA",
    "I,GEI,GAU,G%,Gk,Gq,GkG,GqG,HR,GI,GU,GIU,GV,GNG,GGN,GIH,GObDOTn,GNN,=3131,0HkGUaKIYEOK,ESSkGK",
    "IYEOK,EKIYEOK-:OS,ENIEUN,J-CIEUC,K|EUH,EsKEUT,ESSkGsKEUT,ERIEUL,J-KIYEOK,KMIEUM,KPIEUP,K:OS,",
    "KxIEUx,KP|EUPH,K|EUH,EMIEUM,EPIEUP,ESSkGPIEUP,EPIEUP-:OS,E:OS,FSkG:OS,EIEUNG,ECIEUC,ESSkGCIE",
    "UC,EC|EUCH,EK|EUKH,ExIEUx,EP|EUPH,E|EUH,EA,FE,EYA,GE,EEO,F,EYEO,G,EO,EWA,GE,EOE,EYO,EU,EWEO,",
    "G,FI,EYU,EEU,EYI,EI,7FILiR,7iTTjmSkGNIEUN,ENIEUN-sKEUT,K:OS,KPk:OS,ERIEUL-KIYEOK-:OS,KsKEUT,",
    "KPIEUP-:OS,Lk:OS,KYE+h|EUH,EMIEUM-PIEUP,K:OS,KPk:OS,EKAPYE%NMIEUM,EPIEUP-KIYEOK,KsKEUT,K:OS-",
    "KIYEOK,PsKEUT,KCIEUC,KxIEUx,EKAPYE%NPIEUP,MSSkGPIEUP,E:OS-KIYEOK,JNIEUN,JsKEUT,JPIEUP,JCIEUC",
    ",EPk:OS,ESSkGIEUNG,EYE:EUNG,M-:OS,NPk:OS,EKAPYE%NP|EUPH,ESSkG|EUH,EYE+h|EUH,FO-YA,JE,HI,FU-Y",
    "EO,J,HI,EdAEA,JE,=3190,0IDEOGzP|C kNO&sl LhKhG MdK,NvVjStMdK,NltMdK,NTWO MdK,OHvtMdK,NF%R Md",
    "K,NTOP MdK,NMIDDi MdK,NBOTTOM MdK,NFIRSyMdK,NSECl.MdK,NxIR.MdK,NF%Rx MdK,N*AVq MdK,NEdx MdK,",
    "NMk MdK,0BOPOMOFO iTTj BU,GZI,GJI,GGU,GEE,HNN,GOO,HNN,GIR,GkN,GhN,GUNN,GIM,GNGG,GAhN,HUNN,HM",
    ",GOM,HNG,GhNN,9FhAaP,MT,MK,MH,9iTTj GH,GLH,GZY,9FhAaG,9iTTj GW,GKW,GOE,GAH,0CJKmT^KtT,BWG,BX",
    "G,BBXG,BSW,BHZZ,DG,CP,CZWG,BSZWG,BHZT,DZP,CPWG,CZW,DZZ,BN,BH,BS,BP,BSP,BD,BHZ,CG,BSZ,CWZ,CT,",
    "CG,BPD,CZ,BTN,BSZZ,CWG,BHXWG,CZZZG,BPG,BQ,=31F0,0KA&KkA iTTjmMeL KU,M:,NU,MTO,MNU,Mu,NI,NU,N",
    "E,NO,MMU,Mz,NI,NU,NE,NO,0PdqxE:ZoHkGUL KIYEOK,LNIEUN,LsKEUT,LRIEUL,LMIEUM,LPIEUP,L:OS,LIEUNG",
    ",LCIEUC,M|EUCH,LK|EUKH,LxIEUx,LP|EUPH,L|EUH,LKIYEOK A,LNIEUN A,LsKEUyA,LRIEUL A,LMIEUM A,LPI",
    "EUP A,L:O!A,LIEUNG A,LCIEUC A,M|EUCH A,LK|EUKH A,LxIEUx A,LP|EUPH A,L|EUH A,LCIEUC U,EKOvk C",
    "HdACTj OJEl,W HU,=3220,EIDEOGzPH lE,OTWO,PHvE,OF%R,PIVE,O:X,PEVq,OEf,ONhE,OTq,OMOl,OFIv,OWAT",
    "j,POOD,O_Te,OEdx,OSUN,PTOCK,OuVE,OSOCIETY,ONA_,OSPECIe,OFhkCIe,OClGzTU$sl,O$B+,OvPvSqT,OCeL,",
    "OSTUDY,PUPjVISE,OqTjPRISE,OvS%RCE,OeLIkCE,OFESsVe,OvST,OSELF,OvACH,0;i.IDEOGzPH QUESsl,IKhDj",
    "GdTq,ISCHOOL,IKOTO,8NUMBj Tq l B$CKmQUdE,GWqTY l B$CKmQUdE,G|RTY l B$CKmQUdE,FF+TY l B$CKmQU",
    "dE,GIFTY l B$CKmQUdE,F:XTY l B$CKmQUdE,GEVqTY l B$CKmQUdE,FEfY l B$CKmQUdE,0PdTNjS|Pmw,0;i.N",
    "UMBj TWqTY lE,MTWO,NHvE,MF%R,NIVE,M:X,NEVq,MEf,MNhE,G|RTY,L lE,MTWO,NHvE,MF%R,NIVE,8HkGUL KI",
    "YEOK,FNIEUN,FsKEUT,FRIEUL,FMIEUM,FPIEUP,F:OS,FIEUNG,FCIEUC,G|EUCH,FK|EUKH,FxIEUx,FP|EUPH,F|E",
    "UH,FKIYEOK A,FNIEUN A,FsKEUyA,FRIEUL A,FMIEUM A,FPIEUP A,F:O!A,FIEUNG A,FCIEUC A,G|EUCH A,FK",
    "|EUKH A,FxIEUx A,FP|EUPH A,F|EUH A,8KOvk CHdACTj CuMKO,PJUEUI,8HkGUL IEUNG U,0KOvkmTkDdDm>,0",
    ";i.IDEOGzPH lE,ITWO,JHvE,IF%R,JIVE,I:X,JEVq,IEf,INhE,ITq,IMOl,IFIv,IWATj,JOOD,I_Te,IEdx,ISUN",
    ",JTOCK,IuVE,ISOCIETY,INA_,ISPECIe,IFhkCIe,IClGzTU$sl,I$B+,ISECvT,IMeE,IFEMeE,ISUI&Bi,IEXCELi",
    "NT,IPRhT,IATTqsl,IITEM,IvST,ICOPY,KRvCT,I|GH,ICqTv,ILr,JEFT,IRf,I_<ChE,IvLIGIl,ISTUDY,JUPjVI",
    "SE,IqTjPRISE,IvS%RCE,IeLIkCE,INf,8NUMBj xIRTYmIX,NEVq,MEf,MNhE,FF+TY,K lE,LTWO,MHvE,LF%R,MIV",
    "E,L:X,MEVq,LEf,LNhE,GIFTY,0IDEOGzP|C TEiGzPHm> F+ JkUdY,XFEBRUdY,XMdCH,XAPRIL,X~Y,XJUNE,ZLY,",
    "XAUGUST,XSEPTEMBj,XOCTOBj,XNOVEMBj,XDECEMBj,0SQUdtHG,7jG,8V,0LIMIToLIABILITYmw,0;i.KA&KkA A,",
    "HI,HU,HE,HO,HKA,II,IU,IE,IO,HSA,II,IU,IE,IO,H&,II,IU,IE,IO,HNA,II,IU,IE,IO,Hu,II,IU,IE,IO,H~",
    ",II,IU,IE,IO,HYA,IU,IO,Hz,II,IU,IE,IO,HWA,II,IE,IO,0SQUdtjA NAMtvIWA,7APAATO,8RUHUA,8NPEA,8d",
    "U,7hhGU,9s,7Ul,7ESUKUUDO,8EKAA,7lSU,8OMU,7KAIRI,9zTTO,A+II,7Gdl,9N~,8IGA,9NII,7KYURII,7GIRUD",
    "AA,7KI^,BGUzMU,B_ET+U,BWATTO,7GUzMU,DTl,7KURUZEI^,AOlE,8EESU,8+UNA,9OPO,7SAIKURU,9NsIMU,8IRh",
    "GU,8qs,BO,7DAASU,8E:,8+U,7Tl,7NkO,8OTTO,7uITU,7PAASqTO,ATU,7BAdjU,7PIASUT+U,9KURU,AO,7BIRU,7",
    "HUdADDO,9IITO,7BUSSYjU,7HURk,8EKU&dU,7PESO,9NI|,7HjUTU,7PqSU,9EZI,7BEE&,7POhTO,7B+UTO,7Hl,7P",
    "lDO,7HO+U,AN,7~IKU^,ARU,9Hu,9RUKU,9NSYl,8IKURl,9RI,BBAdU,8EGA,BTl,9ET+U,7YAADO,ARU,8Uk,7RITT",
    "+U,9z,8UPII,9UBURU,8EMU,9NTOGq,7WATTO,0IDEOGzP|C TEiGzPHm> F+ H%R ZjO,clE,cTWO,dHvE,cF%R,dIV",
    "E,c:X,dEVq,cEf,cNhE,cTq,cEiVq,cTWELVE,d|RTEq,cF%RTEq,dIFTEq,c:XTEq,dEVqTEq,cEfEq,cNhETEq,cTW",
    "qTY,i-lE,jTWO,kHvE,jF%R,0SQUdtHPA,7DA,7AU,7Bd,7OV,7PC,7DM,9mQUdED,ACUBED,7IU,7jA NAMt*ISEI,G",
    "SY%WA,G&ISY%,G_IZI,7C+POzsl,7PA AMPS,7NA,7MU A,8A,7KA,8B,7MB,7GB,7Ce,7KCe,7PF,7NF,7MU F,AG,8",
    "G,7KG,7HZ,7KHZ,7MHZ,7GHZ,7xZ,7MU L,8L,7DL,7KL,7FM,7NM,7MU M,8M,7CM,7KM,7MMmQUdED,7CMmQUdED,7",
    "MmQUdED,7KMmQUdED,7MM CUBED,7CM CUBED,7M CUBED,7KM CUBED,7M OVjm,FmQUdED,7PA,7KPA,7MPA,7GPA,",
    "7zD,A OVjm,HmQUdED,7PS,7NS,7MUm,8S,7PV,7NV,7MU V,8V,7KV,7MV _GA,7PW,7NW,7MU W,8W,7KW,7MW _GA",
    ",7K OHM,7M OHM,7AM,7BQ,7CC,8D,8 OVj KG,8O,7DB,7GY,7u,8P,7h,7KK,8M cL,8T,7LM,8N,8OG,8X,7MBmMe",
    "L,8IL,8OL,7PH,8M,8PM,8R,7SR,8V,7WB,7V OVj M,7A OVj M,0IDEOGzP|C TEiGzPHm> F+ DAY lE,bTWO,cHv",
    "E,bF%R,cIVE,b:X,cEVq,bEf,bNhE,bTq,bEiVq,bTWELVE,c|RTEq,bF%RTEq,cIFTEq,b:XTEq,cEVqTEq,bEfEq,b",
    "NhETEq,bTWqTY,h-lE,iTWO,jHvE,iF%R,jIVE,i:X,jEVq,iEf,iNhE,c|RTY,h-lE,0SQUdtGe,=4DC0,0*XAGzM F",
    "+ xtCvAsVt*AVq,HvCEPsVtEdx,D<FFICULTY AyxtBEGhNhG,DY%xFUL FOLLY,DWAIThG,DClFLICT,DxtdMY,DHOL",
    "DhG TOGExj,D?eL &MhG,DTvADhG,DPEACE,DSTkDSsLL,DFELLrS|P,DGvAyPOSSES:l,DMODESTY,DqxU:A?,DFOLL",
    "rhG,DW+K l xtDECAYED,DAPP^ACH,DClTEMP$sl,DBIThG xR%GH,DGzCE,DSPLITThG APdT,DvTURN,DhNOCqCE,D",
    "GvAy&MhG,DM%x C+NjS,DGvAyPvPlDjkCE,DxtABY?e WATj,HCLhGhG FIv,DhFLUqCE,DDUzsl,DvTvAT,DGvAyPrj",
    ",DP^GvSS,DDdKqhG OF xtLf,DxtFAMILY,DOPPO:sl,EBSTRUCsl,DDELIVjkCE,FCvASE,DhCvASE,DBvAKxR%GH,D",
    "COMhG TO _ET,DGAxjhG TOGExj,DPUSHhG UPWdD,DOPPvS:l,DxtWELL,DvVOLUsl,DxtCAULDRl,Hd%ShG xUNDj,",
    "HKEEPhGmsLL M%N&h,DDEVELOPMqT,DxtMdRYhG ~IDq,DABUNDkCE,DxtWkDjj,HGqTi WhD,HJOY%!$KE,D<SPj:l,",
    "DLIMI&sl,DhNj TRUx,D?eL PvPlDjkCE,DAFTj COMPisl,DBEF+tCOMPisl,=A000,0YImYL$Bi IT,DX,D,DP,DET",
    ",EX,E,EP,CAT,DX,D,DP,CUOX,E,EP,COT,DX,D,DP,CEX,D,CWU,CBIT,EX,E,EP,EET,FX,F,FP,DAT,EX,E,EP,DU",
    "OX,F,FP,DOT,EX,E,EP,DEX,E,EP,DUT,EX,E,EP,ERX,F,DYT,EX,E,EP,ERX,F,CPIT,EX,E,EP,EEX,F,FP,DAT,E",
    "X,E,EP,DUOX,F,FP,DOT,EX,E,EP,DUT,EX,E,EP,ERX,F,DYT,EX,E,EP,ERX,F,CBBIT,FX,F,FP,FET,GX,G,GP,E",
    "AT,FX,F,FP,EUOX,G,GP,EOT,FX,F,FP,EEX,F,FP,EUT,FX,F,FP,FRX,G,EYT,FX,F,FP,CNBIT,FX,F,FP,FEX,G,",
    "GP,EAT,FX,F,FP,EOT,FX,F,FP,EUT,FX,F,FP,FRX,G,EYT,FX,F,FP,FRX,G,CHMIT,FX,F,FP,FEX,G,GP,EAT,FX",
    ",F,FP,EUOX,G,GP,EOT,FX,F,FP,EUT,FX,F,FP,FRX,G,EYX,F,FP,FRX,G,CMIT,EX,E,EP,EEX,F,FP,DAT,EX,E,",
    "EP,DUOT,FX,F,FP,DOT,EX,E,EP,DEX,E,DUT,EX,E,EP,ERX,F,DYT,EX,E,EP,CFIT,EX,E,EP,DAT,EX,E,EP,DOX",
    ",E,EP,DUT,EX,E,EP,ERX,F,DYT,EX,E,EP,CVIT,EX,E,EP,EET,FX,F,FP,DAT,EX,E,EP,DOT,EX,E,EP,DEX,EP,",
    "DUT,EX,E,EP,ERX,F,DYT,EX,E,EP,ERX,F,C<T,EX,E,EP,EEX,F,FP,DAT,EX,E,EP,DUOX,F,DOT,EX,E,EP,DEX,",
    "E,EP,DUT,EX,E,EP,ERX,F,CsT,EX,E,EP,EEX,F,FP,DAT,EX,E,EP,DUOT,FX,F,FP,DOT,EX,E,EP,DEX,E,EP,DU",
    "T,EX,E,EP,ERX,F,CD<T,FX,F,FP,FEX,G,GP,EAT,FX,F,FP,EUOX,G,GP,EOT,FX,F,FP,EEX,F,FP,EUT,FX,F,FP",
    ",FRX,G,CN<T,FX,F,FP,FEX,G,EAT,FX,F,FP,EOT,FX,F,FP,EEX,F,FP,EUT,FX,F,FP,FRX,G,CHNIT,FX,F,FP,F",
    "ET,GX,G,GP,EAT,FX,F,FP,EUOX,G,EOT,FX,FP,EEX,F,FP,EUT,CNIT,EX,E,EP,EEX,F,FP,DAX,E,EP,DUOX,F,F",
    "P,DOT,EX,E,EP,DEX,E,EP,DUT,EX,E,EP,ERX,F,CHLIT,FX,F,FP,FEX,G,GP,EAT,FX,F,FP,EUOX,G,GP,EOX,F,",
    "FP,EEX,F,FP,EUT,FX,F,FP,FRX,G,EYT,FX,F,FP,FRX,G,CLIT,EX,E,EP,EET,FX,F,FP,DAT,EX,E,EP,DUOT,FX",
    ",F,FP,DOT,EX,E,EP,DEX,E,EP,DUT,EX,E,EP,ERX,F,DYT,EX,E,EP,ERX,F,CGIT,EX,E,EP,EET,FX,F,FP,DAT,",
    "EX,E,EP,DUOT,FX,F,FP,DOT,EX,E,EP,DET,EX,E,EP,DUT,EX,E,EP,ERX,F,CKIT,EX,E,EP,EEX,F,FP,DAT,EX,",
    "E,EP,DUOX,F,FP,DOT,EX,E,EP,DET,EX,E,EP,DUT,EX,E,EP,ERX,F,CGGIT,FX,F,FEX,G,GP,EAT,FX,F,FP,EUO",
    "T,GX,G,GP,EOT,FX,F,FP,EET,FX,F,FP,EUT,FX,F,FP,FRX,G,CMGIEX,G,EAT,FX,F,FP,EUOX,G,GP,EOT,FX,F,",
    "FP,EEX,F,FP,EUT,FX,F,FP,FRX,G,CHXIT,FX,F,FP,FET,GX,G,GP,EAT,FX,F,FP,EUOT,GX,G,GP,EOT,FX,F,FP",
    ",EEX,F,FP,CNGIEX,G,GP,EAT,FX,F,FP,EUOT,GX,G,EOT,FX,F,FP,EEX,F,FP,C|T,EEX,F,DAT,EX,E,EP,DUOT,",
    "FX,F,FP,DOT,EX,E,EP,DEX,E,EP,CWAT,EX,E,EP,DUOX,F,FP,DOX,E,EP,DEX,E,EP,CZIT,EX,E,EP,EEX,F,FP,",
    "DAT,EX,E,EP,DUOX,F,FP,DOT,EX,E,EP,DEX,E,EP,DUT,EX,E,EP,ERX,F,DYT,EX,E,EP,ERX,F,CCIT,EX,E,EP,",
    "EET,FX,F,FP,DAT,EX,E,EP,DUOX,F,FP,DOT,EX,E,EP,DEX,E,EP,DUT,EX,E,EP,ERX,F,DYT,EX,E,EP,ERX,F,C",
    "ZZIT,FX,F,FP,FET,GX,G,GP,EAT,FX,F,FP,EOX,F,FP,EEX,F,FP,EUX,F,FP,FRX,G,EYT,FX,F,FP,FRX,G,CNZI",
    "T,FX,F,FP,FEX,G,GP,EAT,FX,F,FP,EUOX,G,EOX,FP,EEX,F,EUX,F,FP,FRX,G,EYT,FX,F,FP,FRX,G,C:T,EX,E",
    ",EP,EEX,F,FP,DAT,EX,E,EP,DUOX,F,FP,DOT,EX,E,EP,DEX,E,EP,DUT,EX,E,EP,ERX,F,DYT,EX,E,EP,ERX,F,",
    "D:T,FX,F,FP,FEX,G,GP,EAT,FX,F,FP,EOT,FX,F,FP,EEX,F,FP,EUT,FX,F,FP,EYT,FX,F,FP,FRX,G,CZuT,FX,",
    "F,FP,EUOX,G,GP,EOT,FX,F,FP,EET,FX,F,FP,EUT,FX,F,FP,FRX,G,EYT,FX,F,FP,FRX,G,CCuT,FX,F,FP,EUOT",
    ",GX,G,GP,EOT,FX,F,FP,EET,FX,F,FP,EUX,F,FP,FRX,G,EYT,FX,F,FP,FRX,G,CRzX,F,EUOX,G,EOT,FX,F,FP,",
    "EET,FX,F,FP,EUT,FX,F,FP,FRX,G,EYT,FX,F,FP,FRX,G,CNzT,FX,F,FP,EOX,F,FP,EET,FX,F,FP,EUT,FX,F,F",
    "P,FRX,G,EYT,FX,F,FP,FRX,G,CSuT,FX,F,FP,EUOX,G,GP,EOT,FX,F,FP,EET,FX,F,FP,EUT,FX,F,FP,FRX,G,E",
    "YT,FX,F,FP,FRX,G,CzT,EX,E,EP,DUOX,F,FP,DOT,EX,E,EP,DEX,E,EP,DUT,EX,E,EP,ERX,F,DYT,EX,E,EP,ER",
    "X,F,CJIT,EX,E,EP,EET,FX,F,FP,DUOT,FX,F,FP,DOT,EX,E,EP,DUT,EX,E,EP,ERX,F,DYT,EX,E,EP,ERX,F,CQ",
    "IT,EX,E,EP,EET,FX,F,FP,DUOT,FX,F,FP,DOT,EX,E,EP,DUT,EX,E,EP,ERX,F,DYT,EX,E,EP,ERX,F,CJJIT,FX",
    ",F,FP,FET,GX,G,GP,EUOX,G,GP,EOT,FX,F,FP,EUT,FX,F,FP,FRX,G,EYT,FX,F,FP,CNJIT,FX,F,FP,FET,GX,G",
    ",GP,EUOX,G,EOT,FX,F,FP,EUX,F,FP,FRX,G,EYT,FX,F,FP,FRX,G,DYIT,FX,F,FP,FET,GX,G,GP,EUOX,G,GP,E",
    "OT,FX,F,FP,EUT,FX,F,FP,CXIT,EX,E,EP,EET,FX,F,FP,DUOX,F,DOT,EX,E,EP,DYT,EX,E,EP,ERX,F,CYIT,EX",
    ",E,EP,EET,FX,F,FP,DUOT,FX,F,FP,DOT,EX,E,EP,DUT,EX,E,EP,ERX,F,DYT,EX,E,EP,ERX,F,=A490,3z<Ce Q",
    "OT,BLI,BKIT,BNYIP,BCYP,BS:,BGGOP,CEP,BMI,BHXIT,BLYR,BBBUT,BMOP,BYO,BPUT,BHXUO,B&T,BGA,BZUP,B",
    "CYT,BDDUR,BBUR,BGGUO,BNYOP,BTU,BOP,BJJUT,BZOT,BPYT,BHMO,BYIT,BVUR,BSHY,BVEP,BZA,BJO,BNZUP,BJ",
    "JY,BGOT,BJJIE,BWO,BDU,BSHUR,BLIE,BCY,CUOP,CIP,BHXOP,BSuT,BZUR,BSHOP,BC*,BZZIET,BNBIE,BKE,=A4",
    "D0,0LISU iTTj BA,CPA,Du,CDA,C&,Du,CGA,CKA,Du,CJA,CCA,Du,CDZA,CTSA,Eu,C~,CNA,C$,CSA,CZu,DA,CN",
    "GA,Cu,CXA,CHu,CFA,CWA,CSu,CYA,CGu,CA,DE,CE,DU,CI,CO,CU,DE,DH,COE,CTltMYA s,HNA PO,HMYA CYA,L",
    "BO,LNA,LJEU,5PUNCTUAsl COM~,HFULLmTOP,0VAImYL$Bi EE,FN,D*E,DWEE,GN,DPEE,DB*E,EEE,DMBEE,DKPEE",
    ",DMGBEE,DGBEE,DFEE,DVEE,DTEE,E*E,DD*E,F*E,DiE,DvE,DDEE,DNDEE,DSEE,E*E,DZEE,E*E,DCEE,DJEE,DNJ",
    "EE,DYEE,DKEE,DNGGEE,DGEE,D_E,DNEE,EYEE,DI,EN,D|,FN,DWI,FN,DPI,DB|,EI,DMBI,DKPI,DMGBI,DGBI,DF",
    "I,DVI,Ds,E|,DD|,F|,DLI,DRI,D<,DN<,D:,E|,DZI,E|,DCI,DJI,DNJI,DYI,DKI,DNGGI,DGI,DMI,DNI,EYI,DA",
    ",EN,DNGk,Du,FN,DWA,FN,DPA,DBu,EA,DMBA,DKPA,GN,DMGBA,DGBA,DFA,DVA,D&,Eu,DDu,Fu,D$,Dz,DDA,DNDA",
    ",DSA,Eu,DZA,Eu,DCA,DJA,DNJA,DYA,DKA,FN,DNGGA,DGA,D~,DNA,EYA,DOO,FN,DHOO,DWOO,GN,DPOO,DBHOO,E",
    "OO,DMBOO,DKPOO,DMGBOO,DGBOO,DFOO,DVOO,DTOO,EHOO,DDHOO,FHOO,DLOO,D^O,DDOO,DNDOO,DSOO,EHOO,DZO",
    "O,EHOO,DCOO,DJOO,DNJOO,DYOO,DKOO,DNGGOO,DGOO,DMOO,DNOO,EYOO,DU,EN,DHU,FN,DWU,FN,DPU,DBHU,EU,",
    "DMBU,DKPU,DMGBU,DGBU,DFU,DVU,DTU,EHU,DDHU,FHU,DLU,DRU,DDU,DNDU,DSU,EHU,DZU,EHU,DCU,DJU,DNJU,",
    "DYU,DKU,DNGGU,DGU,DMU,DNU,EYU,DO,EN,DNGl,DHO,FN,DWO,FN,DPO,DBHO,EO,DMBO,DKPO,DMGBO,DGBO,GN,D",
    "FO,DVO,DTO,EHO,DDHO,FHO,DLO,D^,DDO,DNDO,DSO,EHO,DZO,EHO,DCO,DJO,DNJO,DYO,DKO,DNGGO,DGO,DMO,D",
    "NO,EYO,DE,EN,DNGq,D*,FN,DWE,FN,DPE,DB*,EE,DMBE,DKPE,GN,DMGBE,DGBE,GN,DFE,DVE,DTE,E*,DD*,F*,D",
    "i,Dv,DDE,DNDE,DSE,E*,DZE,E*,DCE,DJE,DNJE,DYE,DKE,DNGGE,HN,DGE,FN,D_,DNE,EYE,EG,DiNGxqj,4COM~",
    ",4FULLmTOP,4QUESsl MdK,4SYL$Bi NDOi FA,JKA,JSOO,6MBOL FEqG,BKEqG,BThG,BNII,BBkG,BFAA,B&A,BDk",
    "G,COlG,BKUNG,BTlG,BDO-O,BJlG,4<GIyZjO,AlE,ATWO,BHvE,AF%R,BIVE,A:X,BEVq,AEf,ANhE,4SYL$Bi NDOi",
    " ~,JDO,=A640,0CYRILLIC caZEMLYA,9?eaZEMLYA,9caDZELO,9?eaDZELO,9cavVjSoDZE,9?eavVjSoDZE,9caIO",
    "&,9?eaIO&,9caDJjV,9?eaDJjV,9caMlOGzPH UK,9?eaMlOGzPH UK,9caB^A.O_GA,9?eaB^A.O_GA,9caNEUTRe Y",
    "j,9?eaNEUTRe Yj,9caYjUbBACK Yj,9?eaYjUbBACK Yj,9caIOsFIoYAT,9?eaIOsFIoYAT,9cavVjSoYU,9?eavVj",
    "SoYU,9caIOsFIoA,9?eaIOsFIoA,9caCLOSoLITTi YUS,9?eaCLOSoLITTi YUS,9caBiNDoYUS,9?eaBiNDoYUS,9c",
    "aIOsFIoCLOSoLITTi YUS,9?eaIOsFIoCLOSoLITTi YUS,9caYN,9?eaYN,9cavVjSoTSE,9?eavVjSoTSE,9caSOFy",
    "DE,9?eaSOFyDE,9caSOFyEL,9?eaSOFyEL,9caSOFyEM,9?eaSOFyEM,9caMlOCULd O,9?eaMlOCULd O,9caBhOCUL",
    "d O,9?eaBhOCULd O,9caD%Bi MlOCULd O,9?eaD%Bi MlOCULd O,9iTTj MULsOCULd O,1OMBhhG CYRILLIC VZ",
    "_T,JTq MILLIlSmw,JHUNDRoMILLIlSmw,Jx%Sk.MILLIlSmw,0S$VlIC ASTjISK,0COMBhhG CYRILLIC iTTj UKz",
    "hIk IE,QI,QYI,QU,QHdDmw,QYjU,QSOFTmw,QO_GA,JKAVYKA,JPAYjOK,1YRILLIC KAVYKA,9PAYjOK,9caDWE,9?",
    "eaDWE,9caDZWE,9?eaDZWE,9caZHWE,9?eaZHWE,9caCC*,9?eaCC*,9caDZZE,9?eaDZZE,9caTEbMIDDi HOOK,9?e",
    "aTEbMIDDi HOOK,9caTWE,9?eaTWE,9caTSWE,9?eaTSWE,9caTSSE,9?eaTSSE,9caTC*,9?eaTC*,9caHWE,9?eaHW",
    "E,9caSHWE,9?eaSHWE,9caD%Bi O,9?eaD%Bi O,9caC^SSoO,9?eaC^SSoO,0MO<FIj iTTj CYRILLIC HdDmw,PSO",
    "FTmw,0COMBhhG CYRILLIC iTTj EF,QIOsFIoE,0BAMUM iTTj A,DKA,DU,DKU,DEE,DvE,D&E,DO,DNYI,DI,D$,D",
    "PA,DRII,FEE,DiEEE,D_EEE,D&A,DNDAA,EJAEM,DM,DSUU,DMU,DS|I,EI,E*UX,EEUX,DKYEE,EET,DNUAE,F,EJUA",
    "E,DYOQ,DSHU,DYUQ,EA,DNSu,DKEUX,DPEUX,DNJEE,ETEE,DPUE,DWUE,DPEE,DFEE,DRU,DLU,DMI,DNI,DvUX,EAE",
    ",DKq,DNGKWAq,FGA,FA,DSHO,DPUAE,DFU,EOM,DWA,DNA,DLI,DPI,DLOQ,DKO,DMBq,DRq,DMq,EA,Ds,DKI,DMO,E",
    "BAA,DTET,DKPA,DTq,DNTUU,DSAMBA,DFAA~E,DKOVUU,FGHOM,6COMBhhG MdK KOQNDl,LTUKWqsS,6NJAEMLI,6FU",
    "LLmTOP,6COLl,8M~,6SEMICOLl,6QUESsl MdK,=A700,0MO<FIj iTTj CHhEStTltYh PhG,UkG PhG,UhmHkG,UkG",
    "mHkG,Uh QU,UkG QU,Uh RU,UkG RU,GEXTz-|GH DOTToTltBd,G|GH DOTToTltBd,GMI.DOTToTltBd,GLr DOTTo",
    "TltBd,GEXTz-Lr DOTToTltBd,M|GH DOTToiFT-STEM TltBd,G|GH DOTToiFT-STEM TltBd,GMI.DOTToiFT-STE",
    "M TltBd,GLr DOTToiFT-STEM TltBd,GEXTz-Lr DOTToiFT-STEM TltBd,M|GH iFT-STEM TltBd,G|GH iFT-ST",
    "EM TltBd,GMI.iFT-STEM TltBd,GLr iFT-STEM TltBd,GEXTz-Lr iFT-STEM TltBd,GDOyVjsCe Bd,KS$SH,KH",
    "+IZlTe Bd,GLrj Rf C+Nj kGi,GzISoUP dRr,NDrN dRr,NEXC$~sl MdK,NhVjToEXC$~sl MdK,GLr hVjToEXC$",
    "~sl MdK,GSTvS!k.|GH TlE,RLr TlE,0$Th caEGYPTOLOGICe eEF,6?eaEGYPTOLOGICe eEF,6caEGYPTOLOGICe",
    " Ah,6?eaEGYPTOLOGICe Ah,6caHqG,6?eaHqG,6caTZ,6?eaTZ,6caTv:LLO,6?eaTv:LLO,6caCUATRILLO,6?eaCU",
    "ATRILLO,6caCUATRILLObCOM~,6?eaCUATRILLObCOM~,6iTTjmMeL cL F,RS,6caAA,6?eaAA,6caAO,6?eaAO,6ca",
    "AU,6?eaAU,6caAV,6?eaAV,6caAVbH+IZlTe Bd,6?eaAVbH+IZlTe Bd,6caAY,6?eaAY,6cavVjSoCbDOT,6?eavVj",
    "SoCbDOT,6caKbST^KE,6?eaKbST^KE,6caKb<AGlemT^KE,6?eaKb<AGlemT^KE,6caKbST^Ktk.<AGlemT^KE,6?eaK",
    "bST^Ktk.<AGlemT^KE,6caB^Kq L,6?eaB^Kq L,6caLb|GHmT^KE,6?eaLb|GHmT^KE,6caObLlGmT^KtOVj$Y,6?ea",
    "ObLlGmT^KtOVj$Y,6caObLOOP,6?eaObLOOP,6caOO,6?eaOO,6caPbST^KtxR%GH DESCqDj,6?eaPbST^KtxR%GH D",
    "ESCqDj,6caPbFL%RISH,6?eaPbFL%RISH,6caPbSQUIRvL &IL,6?eaPbSQUIRvL &IL,6caQbST^KtxR%GH DESCqDj",
    ",6?eaQbST^KtxR%GH DESCqDj,6caQb<AGlemT^KE,6?eaQb<AGlemT^KE,6caR ^TUNDA,6?eaR ^TUNDA,6caRUM ^",
    "TUNDA,6?eaRUM ^TUNDA,6caVb<AGlemT^KE,6?eaVb<AGlemT^KE,6caVY,6?eaVY,6caVI:GOxIC Z,6?eaVI:GOxI",
    "C Z,6cax+NbST^KE,6?eax+NbST^KE,6cax+NbST^KtxR%GH DESCqDj,6?eax+NbST^KtxR%GH DESCqDj,6caVqD,6",
    "?eaVqD,6caET,6?eaET,6caIS,6?eaIS,6caCl,6?eaCl,0MO<FIj iTTj US,0$ThmMeaDUM,JLUM,JMUM,JNUM,JRU",
    "M,6iTTjmMeL cL RUM,6?eaTUM,JUM,6cahSULd D,6?eahSULd D,6cahSULd F,6?eahSULd F,6cahSULd G,LTUR",
    "NohSULd G,6?eaTURNohSULd G,6caTURNoL,6?eaTURNoL,6cahSULd R,6?eahSULd R,6cahSULdm,6?eahSULdm,",
    "6cahSULd T,6?eahSULd T,0MO<FIj iTTj Lr ;UMFiX ACCqT,GCOLl,GSH+yEQUeSmw,0$Th caSesLLO,6?eaSes",
    "LLO,6caTURNoH,6?eaLbvT^FiX HOOK k.BELT,6iTTjmhOLOGICe DOT,6caNbDESCqDj,6?eaNbDESCqDj,6caCbBd",
    ",6?eaCbBd,QPeATe HOOK,JHbPeATe HOOK,6caBbFL%RISH,6?eaBbFL%RISH,6caFbST^KE,6?eaFbST^KE,6caVO$",
    "PUK AE,6?eaVO$PUK AE,6caVO$PUK OE,6?eaVO$PUK OE,6caVO$PUK UE,6?eaVO$PUK UE,6caGbOBLIQUEmT^KE",
    ",6?eaGbOBLIQUEmT^KE,6caKbOBLIQUEmT^KE,6?eaKbOBLIQUEmT^KE,6caNbOBLIQUEmT^KE,6?eaNbOBLIQUEmT^K",
    "E,6caRbOBLIQUEmT^KE,6?eaRbOBLIQUEmT^KE,6caSbOBLIQUEmT^KE,6?eaSbOBLIQUEmT^KE,6caHbHOOK,LvVjSo",
    "OPq E,LSCRIPyG,LLbBELT,L?eL cL I,6iTTjmMeL cL Q,6caTURNoK,ST,LJbC^SSED-&IL,LC|,LBE&,6?eaBE&,",
    "6caO_GA,6?eaO_GA,6caUbST^KE,6?eaUbST^KE,6caGLOTTe A,6?eaGLOTTe A,6caGLOTTe I,6?eaGLOTTe I,6c",
    "aGLOTTe U,6?eaGLOTTe U,6caOL.POLISH O,6?eaOL.POLISH O,6cakGLICkA W,6?eakGLICkA W,6caCbPeATe ",
    "HOOK,LSbHOOK,LZbPeATe HOOK,LDbSH+TmT^KtOVj$Y,6?eaDbSH+TmT^KtOVj$Y,6caSbSH+TmT^KtOVj$Y,6?eaSb",
    "SH+TmT^KtOVj$Y,=A7D0,6caCLOSohSULd G,6?eaCLOSohSULd G,=A7D3,JD%Bi x+N,=A7D5,QWYNN,6caMIDDimC",
    "OTSm,6?eaMIDDimCOTSm,6ca:GMOIDm,6?ea:GMOIDm,=A7F2,0MO<FIj iTTj cL C,OF,OQ,0$Th cavVjSoHeF H,",
    "6?eavVjSoHeF H,6EPIGzP|C iTTjmIDEWAY!I,0MO<FIj iTTj cL HbST^KE,G?eL LIGATURtOE,0$Th iTTjmMeL",
    " cL TURNoM,6EPIGzP|C iTTj vVjSoF,XP,OhVjToM,P LlGA,OdCuIC M,0SYLOs NAGRI iTTj A,KI,DSw DVISV",
    "dA,DiTTj U,KE,KO,DSw uSk&,DiTTj KO,LHO,KGO,LHO,DSw kUSVdA,DiTTj CO,LHO,KJO,LHO,KTTO,MHO,KDDO",
    ",MHO,KTO,LHO,KDO,LHO,KNO,KPO,LHO,KBO,LHO,KMO,K^,KLO,KR^,KSO,KHO,DVrELmw A,OI,OU,OE,OOO,DPOET",
    "RY MdK-1,P2,P3,P4,DSw eTjNATtuSk&,=A830,0N+x h<C FzCsl ltQUdTj,PHeF,LxvtQUdTjS,LlEmIXTEqx,PE",
    "fH,LxvEmIXTEqxS,CQUdTj MdK,CP$CEHOLDj MdK,CRUPEtMdK,CQUksTY MdK,=A840,0PuGS-PA iTTj KA,Hu,GG",
    "A,GNGA,GCA,Hu,GJA,GNYA,G&,Hu,GDA,GNA,GPA,Hu,GBA,G~,GTSA,Iu,GDZA,GWA,GZu,HA,G?eL A,GYA,Gz,G$,",
    "GSu,HA,Gu,GA,GI,GU,GE,GO,GQA,GXA,GFA,GGGA,GEE,9SUBJOhoiTTj WA,QYA,9iTTj T&,Iu,GDDA,GNNA,GeTj",
    "NATtYA,GVOICEiSSmu,L.u,GASPIzToFA,9SUBJOhoiTTj z,BPjFIXoiTTj z,9iTTj CkDzBhDU,9ShGi *A.MdK,9",
    "D%Bi *A.MdK,9MdKmuD,ED%BimuD,=A880,0SAUzSHTzmw kUSVdA,GVISdGA,BiTTj A,JA,II,JI,IU,JU,IVOCeIC",
    " R,RR,QL,RL,IE,JE,IAI,IO,JO,IAU,IKA,Ju,IGA,Ju,INGA,ICA,Ju,IJA,Ju,INYA,IT&,Ku,IDDA,Ku,INNA,I&",
    ",Ju,IDA,Ju,INA,IPA,Ju,IBA,Ju,I~,IYA,Iz,I$,IVA,ISu,JSA,JA,Iu,IL$,BClSlkTmw udU,BVrELmw AA,MI,",
    "NI,MU,NU,MVOCeIC R,VR,UL,VL,ME,NE,MAI,MO,NO,MAU,BSw VIz~,GCkDzBhDU,=A8CE,BDkDA,C%Bi DkDA,CIG",
    "IyZjO,HlE,HTWO,IHvE,HF%R,IIVE,H:X,IEVq,HEf,HNhE,=A8E0,0COMBhhG DEVkAGdI <GIyZjO,RlE,RTWO,SHv",
    "E,RF%R,SIVE,R:X,SEVq,REf,RNhE,LiTTj A,SU,SKA,SNA,SPA,Sz,SVI,LSw AVAGzu,0DEVkAGdImwmPAChG CkD",
    "zBhDU,GCkDzBhDU VIz~,GD%Bi CkDzBhDU VIz~,GCkDzBhDU TWO,THvE,SAVAGzu,GPUSHPIKA,BGAP FILiR,BCd",
    "ET,B*ADST^KE,BSwmIDDuM,BJAh OM,BiTTj AY,BVrELmw AY,0KAYAH LI <GIyZjO,FlE,FTWO,GHvE,FF%R,GIVE",
    ",F:X,GEVq,FEf,FNhE,9iTTj KA,Hu,GGA,GNGA,GSA,Hu,GZA,GNYA,G&,GH&,GNA,GPA,Hu,G~,GDA,GBA,Gz,GYA,",
    "G$,GWA,GTu,Gu,GVA,GCA,GA,GOE,GI,GOO,9VrEL UE,FE,FU,FEE,FO,9TltPLOPHU,ECeYA,J PLOPHU,9Sw CWI,",
    "ESHYA,0vJkG iTTj KA,EGA,ENGA,E&,EDA,ENA,EPA,EBA,E~,ECA,EJA,ENYA,ESA,Ez,E$,EYA,EWA,Eu,EMBA,EN",
    "GGA,FDA,FYJA,EA,7VrELmw I,IU,IE,IAI,IO,IAU,IEU,JA,7ClSlkTmw NG,N,MR,MH,7VIz~,=A95F,7SECsl Md",
    "K,0HkGUL CHOSElG sKEUT-MIEUM,NPIEUP,N:OS,NCIEUC,GRIEUL-KIYEOK,MSSkGKIYEOK,MsKEUT,MSSkGsKEUT,",
    "MMIEUM,MPIEUP,MSSkGPIEUP,MKAPYE%NPIEUP,M:OS,MCIEUC,MK|EUKH,GMIEUM-KIYEOK,MsKEUT,M:OS,GPIEUP-",
    ":OS-xIEUx,MK|EUKH,M|EUH,GSSkG:OS-PIEUP,GIEUNG-RIEUL,M|EUH,GSSkGCIEUC-|EUH,LxIEUx,GP|EUPH-|EU",
    "H,G|EUH-:OS,GSSkGYE+h|EUH,=A980,0JAVkESEmw PkYkGGA,ECECAK,E$Yd,EWwYk,9iTTj A,GI KAWI,H,HI,GU",
    ",GPA CjEK,GNGA iiT,P zSWA<,GE,GAI,GO,GKA,ImASAK,JMURDA,GGA,I MURDA,GNGA,GCA,I MURDA,GJA,GNYA",
    " MURDA,GJA ~uPRkA,GNYA,GT&,J ~uPRkA,GDDA,J ~uPRkA,GNA MURDA,G&,I MURDA,GDA,I ~uPRkA,GNA,GPA,",
    "I MURDA,GBA,I MURDA,G~,GYA,Gz,I AGUNG,G$,GWA,GSA MURDA,KAuPRkA,I,Gu,9Sw CECAK TELU,9VrELmw T",
    "dUNG,LOLlG,KWULU,O _LIK,KSUKU,O MqDUT,KTehG,K<RGA MUv,KPEPET,9ClSlkTmw KjET,OPqGKe,OCAKz,9Pk",
    "GKl,9iFyRjqGGk,9Rf RjqGGk,9PADA kDAP,E~DYA,ELUHUR,EWhDU,EPkGKAT,ELhGSA,FUNG:,EADEG,I ADEG,EP",
    "ISEiH,9TURNoPADA PISEiH,=A9CF,9PkGRkGKEP,9<GIyZjO,FlE,FTWO,GHvE,FF%R,GIVE,F:X,GEVq,FEf,FNhE,",
    "=A9DE,9PADA sR& TU_TES,EISq-ISq,0MYkMd iTTjmHk Gu,KCu,KJu,KNNA,KBu,8SwmHkmAW,8MO<FIj iTTjmHk",
    " vDUPLICAsl,8iTTj &I $hG NYA,PFA,PGA,Qu,PJA,Qu,PDDA,Ru,PNNA,8&I $hG <GIyZjO,OlE,OTWO,PHvE,OF",
    "%R,PIVE,O:X,PEVq,OEf,ONhE,8iTTj &I $hG L$,PDA,Qu,PBA,Qu,=AA00,0CuM iTTj A,CI,CU,CE,CAI,CO,CK",
    "A,Du,CGA,Du,CNGUE,EA,CCu,Eu,CJA,Du,CNHUE,EA,EJA,C&,Du,CDA,Du,CNUE,DA,CDDA,CPA,DPA,Du,CBA,Du,",
    "CMUE,DA,CBBA,CYA,Cz,C$,CVA,CSSA,DA,Cu,5VrELmw AA,GI,HI,GEI,GU,GOE,H,GAI,HU,GUE,5ClSlkTmw YA,",
    "Kz,K$,KWA,=AA40,5iTTj Fhe K,IG,ING,5ClSlkTmw Fhe NG,5iTTj Fhe CH,IT,IN,IP,IY,IR,IL,ISS,5ClSl",
    "kTmw Fhe M,QH,=AA50,5<GIyZjO,BlE,BTWO,CHvE,BF%R,CIVE,B:X,CEVq,BEf,BNhE,=AA5C,5PUNCTUAslmPIRe",
    ",HDkDA,I%Bi DkDA,HTRIPi DkDA,0MYkMd iTTj KuMs GA,MCA,Nu,MJA,Nu,MNYA,MT&,Ou,MDDA,Ou,Nu,MNA,MS",
    "A,Mu,Nu,MFA,8MO<FIj iTTj KuMs vDUPLICAsl,8iTTj KuMs XA,MZA,Mz,9OGOGzM KuMs OAY,OQN,OHM,8S> A",
    "ITl EXC$~sl,LlE,LTWO,8iTTj AITl z,8Sw PAO Kdq TlE,D&I $hG TlE-2,S5,8iTTjmHWtPeAUNG Cu,SSu,0&",
    "I VIEyiTTj Lr KO,G|GH KO,GLr KHO,G|GH KHO,GLr KHHO,G|GH KHHO,GLr GO,G|GH GO,GLr NGO,G|GH NGO",
    ",GLr CO,G|GH CO,GLr CHO,G|GH CHO,GLrmO,G|GHmO,GLr NYO,G|GH NYO,GLr DO,G|GH DO,GLr TO,G|GH TO",
    ",GLr xO,G|GH xO,GLr NO,G|GH NO,GLr BO,G|GH BO,GLr PO,G|GH PO,GLr PHO,G|GH PHO,GLr FO,G|GH FO",
    ",GLr MO,G|GH MO,GLr YO,G|GH YO,GLr ^,G|GH ^,GLr LO,G|GH LO,GLr VO,G|GH VO,GLr HO,G|GH HO,GLr",
    " O,G|GH O,9~I KkG,9VrEL AA,FI,FUE,G,FE,FO,9~I K|T,9VrEL IA,FUEA,GA,FAUE,GY,GN,GM,9Tlt~I EK,I",
    "NUqG,IxO,ISlG,=AADB,9S> Kl,GNUqG,GSAM,GHO HOI,GKOI KOI,0_ETEI ~YEK iTTj E,KO,KCu,KNYA,KT&,Mu",
    ",KDDA,Mu,KNNA,KSu,LSA,DVrELmw II,OUU,OAAI,PU,PAU,DC*IKHk,DAHkG KHUDAM,ENJI,DSYL$Bi vPEssl Md",
    "K,DW+.vPEssl MdK,DVrELmw VISdGA,EIz~,=AB01,0ExIOPICmYL$Bi TxU,LI,LAA,LEE,M,LO,=AB09,IDDHU,LI",
    ",LAA,LEE,M,LO,=AB11,JZU,KI,KAA,KEE,L,KO,=AB20,ICCHu,MU,MI,MAA,MEE,N,MO,=AB28,IBBA,KU,KI,KAA,",
    "KEE,L,KO,=AB30,0$ThmMeaBdRoePu,JA vVjSED-SCHWA,JB$CKiTTj E,KdRoE,JEbFL%RISH,JiNI!F,JSCRIPyGb",
    "C^SSED-&IL,JLbhVjTo$ZYm,QD%Bi MIDDi sLDE,QMIDDi RhG,JMbC^SSED-&IL,JNbC^SSED-&IL,JqGbC^SSED-&",
    "IL,JB$CKiTTj O,WbST^KE,JOPq ObST^KE,JhVjToOE,JTURNoOEbST^KE,YH+IZlTemT^KE,R OPq-O,YbST^KE,JS",
    "sRRUP R,6iTTjmMeL cL RbRf iG,6?eaR WIx%yHkDi,JD%Bi R,JRbC^SSED-&IL,JD%Bi RbC^SSED-&IL,JSCRIP",
    "yR,RbRhG,JBASELhtESH,JUbSH+yRf iG,LBdbSH+yRf iG,KI,JTURNoUI,JUbiFyHOOK,JC|,MbLr Rf RhG,WiFTm",
    "jIF,JXbLr Rf RhG,SNG iFyiG,d k.Lr Rf RhG,eWIxmjIF,JYbSH+yRf iG,0MO<FIj BvVEbhVjToBvVE,9iTTjm",
    "MeL HqG,MLbhVjTo$ZYm,TMIDDi sLDE,MUbiFyHOOK,0$ThmMeaSAKu YAT,JIOsFIoE,JOPq OE,JUO,JhVjToePu,",
    "0GvEK iTTjmMeL cL O_GA,0$ThmMeaDZ <GzPHbvT^FiX HOOK,JT!<GzPHbvT^FiX HOOK,KURNoRbMIDDi sLDE,0",
    "MO<FIj iTTjmMeL TURNoW,GiFy&CK,GRf &CK,=AB70,0CHjOKEEmMeaA,ME,MI,MO,MU,MV,MGA,MKA,MGE,NI,NO,",
    "NU,NV,Mu,NE,NI,NO,NU,NV,M$,NE,NI,NO,NU,NV,M~,NE,NI,NO,NU,MNA,MHNA,MNAH,NE,NI,NO,NU,NV,MQUA,O",
    "E,OI,OO,OU,OV,MSA,N,NE,NI,NO,NU,NV,MDA,M&,MDE,MTE,M<,Ms,MDO,NU,NV,N$,MT$,OE,OI,OO,OU,OV,NSA,",
    "OE,OI,OO,OU,OV,MWA,NE,NI,NO,NU,NV,MYA,0_ETEI ~YEK iTTj KOK,KSAM,K$I,KMIT,KPA,KNA,KC|L,KsL,KK",
    "H%,KNG%,Kx%,KWAI,KYkG,KHUK,KUN,KI,KPuM,KAsYA,KGOK,KJuM,KzI,KBA,KJIL,K<L,KGH%,KDH%,KBuM,KKOK ",
    "LlSUM,K$I LlSUM,KMIyLlSUM,KPA LlSUM,KNA LlSUM,KsL LlSUM,KNG% LlSUM,KI LlSUM,DVrELmw lAP,OhAP",
    ",OkAP,OYqAP,OS%NAP,OUNAP,OC*hAP,ONUNG,DC*IK*I,DLUM IYEK,DAPUN IYEK,=ABF0,D<GIyZjO,JlE,JTWO,K",
    "HvE,JF%R,KIVE,J:X,KEVq,JEf,JNhE,=D7B0,0HkGUL JUNGSElG O-YEO,JO-I,HYO-A,LE,KEO,HU-YEO,JI-I,HY",
    "U-AE,KO,HEU-A,KEO,L,KO,HI-YA-O,LE,KEO,L,JO-I,JYO,KU,JI,HdAEA-A,NE,=D7CB,8lGSElG NIEUN-RIEUL,",
    "NC|EUCH,HSSkGsKEUT,S-PIEUP,HsKEUT-PIEUP,O:OS,S-KIYEOK,OCIEUC,P|EUCH,OxIEUx,HRIEUL-SSkGKIYEOK",
    ",NKIYEOK-|EUH,HSSkGRIEUL-K|EUKH,HRIEUL-MIEUM-|EUH,NPIEUP-sKEUT,TP|EUPH,NYE:EUNG,P+h|EUH-|EUH",
    ",HKAPYE%NRIEUL,HMIEUM-NIEUN,NSSkGNIEUN,HSSkGMIEUM,HMIEUM-PIEUP-:OS,NCIEUC,HPIEUP-sKEUT,NRIEU",
    "L-P|EUPH,NMIEUM,HSSkGPIEUP,HPIEUP-:OS-sKEUT,NCIEUC,O|EUCH,H:OS-MIEUM,MKAPYE%NPIEUP,ISkG:OS-K",
    "IYEOK,RsKEUT,IIOS-Pk:OS,MCIEUC,N|EUCH,MxIEUx,M|EUH,HPk:OS-PIEUP,PKAPYE%NPIEUP,HYE:EUNG-MIEUM",
    ",Q|EUH,HCIEUC-PIEUP,NSSkGPIEUP,HSSkGCIEUC,HP|EUPH-:OS,PxIEUx,=FB00,0$ThmMeL LIGATURtFF,MI,ML",
    ",MFI,NL,LLlGm T,LST,=FB13,0dMqIkmMeL LIGATURtMq Nr,SECH,ShI,OVEW Nr,OMq XEH,=FB1D,0*BvW iTTj",
    " YODb|RIQ,7POhyJUDEO-SPkISH VdIKA,7LIGATURtYID<SH YO.YO.PA&H,8ETTj eTjNAsVtAYh,EWIDteEF,JDeE",
    "T,J*,JKAF,J$_D,JFhe _M,JvSH,J&V,EeTjNAsVtPLUSmw,ESHhbSHh DOT,Ph DOT,ODAGESH kDmHh DOT,ah DOT",
    ",EeEFbPA&H,OQA~TS,O~PIQ,EBETbDAGESH,EGI_LbDAGESH,EDeETbDAGESH,E*b~PIQ,EVAVbDAGESH,EZAYhbDAGE",
    "SH,=FB38,ETETbDAGESH,EYODbDAGESH,EFhe KAFbDAGESH,EKAFbDAGESH,E$_DbDAGESH,=FB3E,E_MbDAGESH,=F",
    "B40,ENUNbDAGESH,ESA_KHbDAGESH,=FB43,EFhe PEbDAGESH,EPEbDAGESH,=FB46,ETSA<bDAGESH,EQOFbDAGESH",
    ",EvSHbDAGESH,ESHhbDAGESH,E&VbDAGESH,EVAVbHO$M,EBETbzFE,EKAFbzFE,EPEbzFE,8IGATURteEF $_D,0dAB",
    "IC iTTj eEF WAS$pg,PFheg,EBEEHpg,JFheg,JhIseg,J_<eg,EPEHpg,IFheg,IhIseg,I_<eg,EBE*Hpg,KFheg,",
    "KhIseg,K_<eg,ETTE*Hpg,LFheg,LhIseg,L_<eg,FE*Hpg,KFheg,KhIseg,K_<eg,FTEHpg,JFheg,JhIseg,J_<eg",
    ",EVEHpg,IFheg,IhIseg,I_<eg,EPE*Hpg,KFheg,KhIseg,K_<eg,EDYEHpg,JFheg,JhIseg,J_<eg,ENYEHpg,JFh",
    "eg,JhIseg,J_<eg,ETC*Hpg,KFheg,KhIseg,K_<eg,JEHpg,MFheg,MhIseg,M_<eg,EDDAHepg,LFheg,FAHepg,KF",
    "heg,FULpg,IFheg,FDepg,JFheg,EJEHpg,IFheg,ERvHpg,JFheg,EKE*Hpg,KFheg,KhIseg,K_<eg,EGAFpg,IFhe",
    "g,IhIseg,I_<eg,FUEHpg,JFheg,JhIseg,J_<eg,ENGOEHpg,KFheg,KhIseg,K_<eg,FOl GHUNNApg,QFheg,ERNO",
    "lpg,KFheg,KhIseg,K_<eg,E*HbYEHnpg,XFheg,IGOepg,NFheg,NhIseg,N_<eg,IDOACuSH_Epg,UFheg,UhIseg,",
    "U_<eg,EYEH BdvEpg,PFheg,PWIx uMZAnpg,gFheg,7S> DOTn,IBELr,ETWO DOTSn,NBELr,FHvtDOTSn,PBELr,P",
    "POhThG DrNWdDSn,iBELr,EF%R DOTSn,OBELr,ED%Bi VjsCe Bd BELr,ETWO DOT!VjsCeLYn,YBELr,ERhG,E?eL",
    " &Hn,OBELr,EWAS$n,=FBD3,7iTTj NGpg,HFheg,HhIseg,H_<eg,EUpg,GFheg,EOEpg,HFheg,EYUpg,HFheg,EUb",
    "uMZAnpg,EVEpg,HFheg,EKIRG|Z OEpg,PFheg,MYUpg,PFheg,EEpg,GFheg,GhIseg,G_<eg,EUIGHUR KAZAKH KI",
    "RG|Z eEF ~KSUz hIseg,n_<eg,8IGATURtYEHbuMZAnbeEFpg,lFheg,hEpg,jFheg,gWAWpg,kFheg,gUpg,iFheg,",
    "gOEpg,jFheg,gYUpg,jFheg,gEpg,iFheg,ihIseg,GUIGHUR KIRG|Z YEHbuMZAnbeEF ~KSUzpg,z ~KSUz Fheg,",
    "z ~KSUz hIseg,8ETTj Fd: YEHpg,OFheg,OhIseg,O_<eg,8IGATURtYEHbuMZAnbJEEMpg,guHpg,g_EMpg,geEF ",
    "~KSUzpg,gYEHpg,GBEHbJEEMpg,PuHpg,PKuHpg,P_EMpg,PeEF ~KSUzpg,PYEHpg,GTEHbJEEMpg,PuHpg,PKuHpg,",
    "P_EMpg,PeEF ~KSUzpg,PYEHpg,H*HbJEEMpg,Q_EMpg,QeEF ~KSUzpg,QYEHpg,GJEEMbuHpg,Q_EMpg,GuHbJEEMp",
    "g,P_EMpg,GKuHbJEEMpg,QuHpg,Q_EMpg,GSEqbJEEMpg,QuHpg,QKuHpg,Q_EMpg,HADbuHpg,P_EMpg,GDADbJEEMp",
    "g,PuHpg,PKuHpg,P_EMpg,G&HbuHpg,P_EMpg,GZAHb_EMpg,GAhbJEEMpg,P_EMpg,GGuhbJEEMpg,R_EMpg,GFEHbJ",
    "EEMpg,PuHpg,PKuHpg,P_EMpg,PeEF ~KSUzpg,PYEHpg,GQAFbuHpg,P_EMpg,PeEF ~KSUzpg,PYEHpg,GKAFbeEFp",
    "g,PJEEMpg,PuHpg,PKuHpg,P$Mpg,P_EMpg,PeEF ~KSUzpg,PYEHpg,G$MbJEEMpg,PuHpg,PKuHpg,P_EMpg,PeEF ",
    "~KSUzpg,PYEHpg,G_EMbJEEMpg,QuHpg,QKuHpg,Q_EMpg,QeEF ~KSUzpg,QYEHpg,GNOlbJEEMpg,QuHpg,QKuHpg,",
    "Q_EMpg,QeEF ~KSUzpg,QYEHpg,G*HbJEEMpg,P_EMpg,PeEF ~KSUzpg,PYEHpg,GYEHbJEEMpg,PuHpg,PKuHpg,P_",
    "EMpg,PeEF ~KSUzpg,PYEHpg,GxebSUPjSCRIPyeEFpg,GvHbSUPjSCRIPyeEFpg,GeEF ~KSUzbSUPjSCRIPyeEFpg,",
    "GSuDDAbDAM~Tkpg,SKASzTkpg,SFATupg,SDAM~pg,SKASzpg,SSUPjSCRIPyeEFpg,GYEHbuMZAnbvH Fheg,gZAh F",
    "heg,g_EM Fheg,gNOl Fheg,geEF ~KSUz Fheg,gYEH Fheg,GBEHbvH Fheg,PZAh Fheg,P_EM Fheg,PNOl Fheg",
    ",PeEF ~KSUz Fheg,PYEH Fheg,GTEHbvH Fheg,PZAh Fheg,P_EM Fheg,PNOl Fheg,PeEF ~KSUz Fheg,PYEH F",
    "heg,H*HbvH Fheg,QZAh Fheg,Q_EM Fheg,QNOl Fheg,QeEF ~KSUz Fheg,QYEH Fheg,GFEHbeEF ~KSUz Fheg,",
    "PYEH Fheg,GQAFbeEF ~KSUz Fheg,PYEH Fheg,GKAFbeEF Fheg,P$M Fheg,P_EM Fheg,PeEF ~KSUz Fheg,PYE",
    "H Fheg,G$Mb_EM Fheg,PeEF ~KSUz Fheg,PYEH Fheg,G_EMbeEF Fheg,Q_EM Fheg,GNOlbvH Fheg,QZAh Fheg",
    ",Q_EM Fheg,QNOl Fheg,QeEF ~KSUz Fheg,QYEH Fheg,GeEF ~KSUzbSUPjSCRIPyeEF Fheg,GYEHbvH Fheg,PZ",
    "Ah Fheg,P_EM Fheg,PNOl Fheg,PeEF ~KSUz Fheg,PYEH Fheg,PuMZAnbJEEM hIseg,guH hIseg,gKuH hIseg",
    ",g_EM hIseg,g*H hIseg,GBEHbJEEM hIseg,PuH hIseg,PKuH hIseg,P_EM hIseg,P*H hIseg,GTEHbJEEM hI",
    "seg,PuH hIseg,PKuH hIseg,P_EM hIseg,P*H hIseg,H*Hb_EM hIseg,GJEEMbuH hIseg,Q_EM hIseg,GuHbJE",
    "EM hIseg,P_EM hIseg,GKuHbJEEM hIseg,Q_EM hIseg,GSEqbJEEM hIseg,QuH hIseg,QKuH hIseg,Q_EM hIs",
    "eg,HADbuH hIseg,PKuH hIseg,P_EM hIseg,GDADbJEEM hIseg,PuH hIseg,PKuH hIseg,P_EM hIseg,G&HbuH",
    " hIseg,GZAHb_EM hIseg,GAhbJEEM hIseg,P_EM hIseg,GGuhbJEEM hIseg,R_EM hIseg,GFEHbJEEM hIseg,P",
    "uH hIseg,PKuH hIseg,P_EM hIseg,GQAFbuH hIseg,P_EM hIseg,GKAFbJEEM hIseg,PuH hIseg,PKuH hIseg",
    ",P$M hIseg,P_EM hIseg,G$MbJEEM hIseg,PuH hIseg,PKuH hIseg,P_EM hIseg,P*H hIseg,G_EMbJEEM hIs",
    "eg,QuH hIseg,QKuH hIseg,Q_EM hIseg,GNOlbJEEM hIseg,QuH hIseg,QKuH hIseg,Q_EM hIseg,Q*H hIseg",
    ",G*HbJEEM hIseg,P_EM hIseg,PSUPjSCRIPyeEF hIseg,GYEHbJEEM hIseg,PuH hIseg,PKuH hIseg,P_EM hI",
    "seg,P*H hIseg,QAMZAnb_EM _<eg,g*H _<eg,GBEHb_EM _<eg,P*H _<eg,GTEHb_EM _<eg,P*H _<eg,H*Hb_EM",
    " _<eg,Q*H _<eg,GSEqb_EM _<eg,Q*H _<eg,H*qb_EM _<eg,R*H _<eg,GKAFb$M _<eg,P_EM _<eg,G$Mb_EM _",
    "<eg,GNOlb_EM _<eg,Q*H _<eg,GYEHb_EM _<eg,P*H _<eg,GSuDDAbFATu _<eg,SDAM~ _<eg,SKASz _<eg,G&H",
    "beEF ~KSUzpg,PYEHpg,GAhbeEF ~KSUzpg,PYEHpg,GGuhbeEF ~KSUzpg,RYEHpg,GSEqbeEF ~KSUzpg,QYEHpg,H",
    "*qbeEF ~KSUzpg,RYEHpg,GuHbeEF ~KSUzpg,PYEHpg,GJEEMbeEF ~KSUzpg,QYEHpg,GKuHbeEF ~KSUzpg,QYEHp",
    "g,GSADbeEF ~KSUzpg,PYEHpg,GDADbeEF ~KSUzpg,PYEHpg,GS*qbJEEMpg,RuHpg,RKuHpg,R_EMpg,RvHpg,HEqb",
    "vHpg,HADbvHpg,GDADbvHpg,G&HbeEF ~KSUz Fheg,PYEH Fheg,GAhbeEF ~KSUz Fheg,PYEH Fheg,GGuhbeEF ~",
    "KSUz Fheg,RYEH Fheg,GSEqbeEF ~KSUz Fheg,QYEH Fheg,H*qbeEF ~KSUz Fheg,RYEH Fheg,GuHbeEF ~KSUz",
    " Fheg,PYEH Fheg,GJEEMbeEF ~KSUz Fheg,QYEH Fheg,GKuHbeEF ~KSUz Fheg,QYEH Fheg,GSADbeEF ~KSUz ",
    "Fheg,PYEH Fheg,GDADbeEF ~KSUz Fheg,PYEH Fheg,GS*qbJEEM Fheg,RuH Fheg,RKuH Fheg,R_EM Fheg,RvH",
    " Fheg,HEqbvH Fheg,HADbvH Fheg,GDADbvH Fheg,GS*qbJEEM hIseg,RuH hIseg,RKuH hIseg,R_EM hIseg,H",
    "Eqb*H hIseg,H*qb*H hIseg,G&Hb_EM hIseg,GSEqbJEEM _<eg,QuH _<eg,QKuH _<eg,H*qbJEEM _<eg,RuH _",
    "<eg,RKuH _<eg,G&Hb_EM _<eg,GZAHb_EM _<eg,GeEFbFATuTk Fheg,ZISO$TEDg,0+NATtiFyPdqxE:S,7Rf Pdq",
    "xE:S,0dABIC LIGATURtz|~HU e$AH,I< e$AHU kH,WAA,WUM,YAA,XNNA,GSeLe$AHU eAY| WA-AeIH,GeAY| AS-",
    "SeAAM,MM AS-SeAAM,NAA AS-SeAAM,M AS-SeAATU WAS-SeAAM,GQUD<SAmIRzH,GSeLe$HU eAY| WAAeI*tWA-Se",
    "$M,GeAYuA AS-SeAAM,G&BAdAKA WA-&AeAA,Gz|~HUM e$AH,GTEHbJEEMb_EM hIseg,PuHbJEEM Fheg,dhIseg,Y",
    "_EM hIseg,PKuHb_EM hIseg,P_EMbJEEM hIseg,ZuH hIseg,ZKuH hIseg,GJEEMb_EMbuH Fheg,ehIseg,GuHb_",
    "EMbYEH Fheg,ZeEF ~KSUz Fheg,GSEqbuHbJEEM hIseg,QJEEMbuH hIseg,aeEF ~KSUz Fheg,Q_EMbuH Fheg,e",
    "hIseg,aJEEM hIseg,a_EM Fheg,fhIseg,HADbuHbuH Fheg,chIseg,P_EMb_EM Fheg,H*qbuHb_EM Fheg,fhIse",
    "g,RJEEMbYEH Fheg,R_EMbKuH Fheg,ghIseg,b_EM Fheg,ghIseg,GDADbuHbeEF ~KSUz Fheg,PKuHb_EM Fheg,",
    "ehIseg,G&Hb_EMbuH Fheg,dhIseg,Z_EM hIseg,ZYEH Fheg,GAhbJEEMb_EM Fheg,P_EMb_EM Fheg,ehIseg,Ze",
    "EF ~KSUz Fheg,GGuhb_EMb_EM Fheg,bYEH Fheg,beEF ~KSUz Fheg,GFEHbKuHb_EM Fheg,ehIseg,GQAFb_EMb",
    "uH Fheg,Z_EM Fheg,G$MbuHb_EM Fheg,YYEH Fheg,YeEF ~KSUz Fheg,PJEEMbJEEM hIseg,eFheg,PKuHb_EM ",
    "Fheg,ehIseg,P_EMbuH Fheg,dhIseg,G_EMbuHbJEEM hIseg,Z_EM hIseg,ZYEH Fheg,QJEEMbuH hIseg,a_EM ",
    "hIseg,QKuHbJEEM hIseg,a_EM hIseg,=FD92,QJEEMbKuH hIseg,G*Hb_EMbJEEM hIseg,Z_EM hIseg,GNOlbuH",
    "b_EM hIseg,ZeEF ~KSUz Fheg,QJEEMb_EM Fheg,fhIseg,aeEF ~KSUz Fheg,Q_EMbYEH Fheg,aeEF ~KSUz Fh",
    "eg,GYEHb_EMb_EM Fheg,ehIseg,GBEHbKuHbYEH Fheg,GTEHbJEEMbYEH Fheg,ZeEF ~KSUz Fheg,PKuHbYEH Fh",
    "eg,ZeEF ~KSUz Fheg,P_EMbYEH Fheg,ZeEF ~KSUz Fheg,GJEEMb_EMbYEH Fheg,QuHbeEF ~KSUz Fheg,Q_EMb",
    "eEF ~KSUz Fheg,GSEqbKuHbeEF ~KSUz Fheg,HADbuHbYEH Fheg,H*qbuHbYEH Fheg,GDADbuHbYEH Fheg,G$Mb",
    "JEEMbYEH Fheg,P_EMbYEH Fheg,GYEHbuHbYEH Fheg,PJEEMbYEH Fheg,P_EMbYEH Fheg,G_EMb_EMbYEH Fheg,",
    "GQAFb_EMbYEH Fheg,GNOlbuHbYEH Fheg,GQAFb_EMbuH hIseg,G$MbuHb_EM hIseg,GAhb_EMbYEH Fheg,GKAFb",
    "_EMbYEH Fheg,GNOlbJEEMbuH hIseg,G_EMbKuHbYEH Fheg,G$MbJEEMb_EM hIseg,GKAFb_EMb_EM Fheg,G$MbJ",
    "EEMb_EM Fheg,GNOlbJEEMbuH Fheg,GJEEMbuHbYEH Fheg,GuHbJEEMbYEH Fheg,G_EMbJEEMbYEH Fheg,GFEHb_",
    "EMbYEH Fheg,GBEHbuHbYEH Fheg,GKAFb_EMb_EM hIseg,GAhbJEEMb_EM hIseg,GSADb_EMb_EM hIseg,HEqbKu",
    "HbYEH Fheg,GNOlbJEEMbYEH Fheg,=FDCF,GSeAAMUHU eAYNAA,=FDF0,J$ USoA!K+kICmTOPmwpg,GQeA USoA!K",
    "+kICmTOPmwpg,Ge$Hpg,HKBdpg,GMOuM~Dpg,GSeAMpg,GzS%Lpg,GeAY*pg,GWASe$Mpg,GSe$pg,LL$H% eAYHtWAS",
    "e$M,GJe$Jee%H%,0RIemw,0dABIC LIGATURtBI?IL$H d-zHMk d-z*EM,GSUBukAHU WA &AeAA,GAZZA WA JeL,0",
    "VdIAslmEiCT+-1,J2,J3,J4,J5,J6,J7,J8,J9,J10,K1,K2,K3,K4,K5,K6,0PvSq&slg F+ VjsCe COM~,VIDEOGz",
    "P|C COM~,hFULLmTOP,VCOLl,VSEMICOLl,VEXC$~sl MdK,VQUESsl MdK,ViFyW|TtiNsCULd BzCKET,VRf W|Tti",
    "NsCULd BzKCET,VH+IZlTe ELLIP:S,=FE20,0COMBhhG LIGATURtiFyHeF,JRf HeF,AD%Bi sLDtiFyHeF,NRf He",
    "F,A~CRl iFyHeF,HRf HeF,AClJOhhG ~CRl,ALIGATURtiFyHeF BELr,JRf HeF BELr,AsLDtiFyHeF BELr,GRf ",
    "HeF BELr,A~CRl iFyHeF BELr,HRf HeF BELr,AClJOhhG ~CRl BELr,BYRILLIC sTLO iFyHeF,PRf HeF,0PvS",
    "q&slg F+ VjsCe TWO DOyiADj,VEM DASH,WN DASH,VLr LhE,VWAVY Lr LhE,ViFyPdqxE:S,VRf PdqxE:S,ViF",
    "yCURLY BzCKET,VRf CURLY BzCKET,ViFyT+TOISEm*LL BzCKET,VRf T+TOISEm*LL BzCKET,ViFyB$CK iNsCUL",
    "d BzCKET,VRf B$CK iNsCULd BzCKET,ViFyD%Bi kGi BzCKET,VRf D%Bi kGi BzCKET,ViFykGi BzCKET,VRf ",
    "kGi BzCKET,ViFyC+Nj BzCKET,VRf C+Nj BzCKET,ViFyW|TtC+Nj BzCKET,VRf W|TtC+Nj BzCKET,0SESAMtDO",
    "T,0W|TEmESAMtDOT,0PvSq&slg F+ VjsCe iFTmQUdtBzCKET,VRfmQUdtBzCKET,0DASHoOVjLhE,0CqTvLhtOVjLh",
    "E,0WAVY OVjLhE,0D%Bi WAVY OVjLhE,1ASHoLr LhE,0CqTvLhtLr LhE,0WAVY Lr LhE,0?eL COM~,6IDEOGzP|",
    "C COM~,6FULLmTOP,=FE54,6SEMICOLl,6COLl,6QUESsl MdK,6EXC$~sl MdK,7M DASH,6iFyPdqxE:S,6Rf Pdqx",
    "E:S,6iFyCURLY BzCKET,6Rf CURLY BzCKET,6iFyT+TOISEm*LL BzCKET,6Rf T+TOISEm*LL BzCKET,6NUMBjmw",
    ",6AMPjSkD,7STjISK,6PLUSmw,6HYPHq-MhUS,6iSS-xkmw,6GvATj-xkmw,6EQUeSmw,=FE68,6vVjSEmOLIDUS,6DO",
    "LLdmw,6PjCqTmw,6COMMjCIe AT,=FE70,0dABIC FATuTkpg,7&TWEELbFATuTkn,7DAM~Tkpg,7&IL FzGMqT,7KAS",
    "zTkpg,=FE76,7FATupg,D_<eg,7DAM~pg,D_<eg,7KASzpg,D_<eg,7SuDDApg,E_<eg,8UKUNpg,D_<eg,7iTTj uMZ",
    "Apg,EeEFb~DDAnpg,aFheg,OuMZAnpg,aFheg,EWAWbuMZAnpg,ZFheg,EeEFbuMZA BELrpg,aFheg,EYEHbuMZAnpg",
    ",ZFheg,ZhIseg,Z_<eg,EeEFpg,JFheg,EBEHpg,IFheg,IhIseg,I_<eg,ETEH MdBU&pg,QFheg,IISO$TEDg,IFhe",
    "g,IhIseg,I_<eg,F*Hpg,JFheg,JhIseg,J_<eg,EJEEMpg,JFheg,JhIseg,J_<eg,EuHpg,IFheg,IhIseg,I_<eg,",
    "EKuHpg,JFheg,JhIseg,J_<eg,EDepg,IFheg,Exepg,JFheg,EvHpg,IFheg,EZAhpg,JFheg,ESEqpg,JFheg,JhIs",
    "eg,J_<eg,F*qpg,KFheg,KhIseg,K_<eg,FADpg,IFheg,IhIseg,I_<eg,EDADpg,IFheg,IhIseg,I_<eg,E&Hpg,I",
    "Fheg,IhIseg,I_<eg,EZAHpg,IFheg,IhIseg,I_<eg,EAhpg,IFheg,IhIseg,I_<eg,EGuhpg,KFheg,KhIseg,K_<",
    "eg,EFEHpg,IFheg,IhIseg,I_<eg,EQAFpg,IFheg,IhIseg,I_<eg,EKAFpg,IFheg,IhIseg,I_<eg,E$Mpg,IFheg",
    ",IhIseg,I_<eg,E_EMpg,JFheg,JhIseg,J_<eg,ENOlpg,JFheg,JhIseg,J_<eg,E*Hpg,IFheg,IhIseg,I_<eg,E",
    "WAWpg,IFheg,EeEF ~KSUzpg,RFheg,EYEHpg,IFheg,IhIseg,I_<eg,8IGATURt$MbeEFb~DDAnpg,lFheg,ZuMZAn",
    "pg,lFheg,fBELrpg,lFheg,UISO$TEDg,UFheg,=FEFF,0ZjO WIDx NO-BvAKmPACE,=FF01,0FULLWIDx EXC$~sl ",
    "MdK,AQUO&sl MdK,ANUMBjmw,ADOLLdmw,APjCqTmw,AAMPjSkD,BPOST^P*,AiFyPdqxE:S,ARf PdqxE:S,AASTjIS",
    "K,APLUSmw,ACOM~,AHYPHq-MhUS,AFULLmTOP,ASOLIDUS,A<GIyZjO,GlE,GTWO,HHvE,GF%R,HIVE,G:X,HEVq,GEf",
    ",GNhE,ACOLl,ASEMICOLl,AiSS-xkmw,AEQUeSmw,AGvATj-xkmw,AQUESsl MdK,ACOMMjCIe AT,A$Th caA,VB,VC",
    ",VD,VE,VF,VG,VH,VI,VJ,VK,VL,VM,VN,VO,VP,VQ,VR,VS,VT,VU,VV,VW,VX,VY,VZ,BEFTmQUdtBzCKET,AvVjSE",
    "mOLIDUS,BfmQUdtBzCKET,A;UMFiX ACCqT,ALr LhE,AGzVtACCqT,A$ThmMeaA,TB,TC,TD,TE,TF,TG,TH,TI,TJ,",
    "TK,TL,TM,TN,TO,TP,TQ,TR,TS,TT,TU,TV,TW,TX,TY,TZ,BEFyCURLY BzCKET,AVjsCe LhE,ARf CURLY BzCKET",
    ",AsLDE,AiFyW|TtPdqxE:S,ARf W|TtPdqxE:S,0HeFWIDx IDEOGzP|C FULLmTOP,AiFyC+Nj BzCKET,ARf C+Nj ",
    "BzCKET,AIDEOGzP|C COM~,AKA&KkA MIDDi DOT,JiTTj WO,Q?eL A,WI,WU,WE,WO,WYA,XU,XO,WTU,I-|zGkA P",
    "^LlGEDm%N.MdK,I iTTj A,QI,QU,QE,QO,QKA,RI,RU,RE,RO,QSA,RI,RU,RE,RO,Q&,RI,RU,RE,RO,QNA,RI,RU,",
    "RE,RO,Qu,RI,RU,RE,RO,Q~,RI,RU,RE,RO,QYA,RU,RO,Qz,RI,RU,RE,RO,QWA,QN,JVOICEDm%N.MdK,JSEMI-VOI",
    "CEDm%N.MdK,AHkGUL FILiR,HiTTj KIYEOK,OSSkGKIYEOK,OKIYEOK-:OS,ONIEUN,T-CIEUC,U|EUH,OsKEUT,OSS",
    "kGsKEUT,ORIEUL,T-KIYEOK,UMIEUM,UPIEUP,U:OS,UxIEUx,UP|EUPH,U|EUH,OMIEUM,OPIEUP,OSSkGPIEUP,OPI",
    "EUP-:OS,O:OS,PSkG:OS,OIEUNG,OCIEUC,OSSkGCIEUC,OC|EUCH,OK|EUKH,OxIEUx,OP|EUPH,O|EUH,=FFC2,OA,",
    "PE,OYA,QE,OEO,P,=FFCA,OYEO,Q,OO,OWA,QE,OOE,=FFD2,OYO,OU,OWEO,Q,PI,OYU,=FFDA,OEU,OYI,OI,=FFE0",
    ",0FULLWIDx CqTmw,AP%NDmw,ANOTmw,A~CRl,AB^Kq Bd,AYqmw,AWlmw,=FFE8,0HeFWIDxg!Lf VjsCe,AiFTWdD!",
    "dRr,AUPWdD!dRr,ARfWdD!dRr,ADrNWdD!dRr,AB$CKmQUdE,AW|Tt;i,=FFF9,0hTjLhEd kNO&sl kCH+,NSEPdAT+",
    ",NTjMhAT+,0OBJECyvP$CEMqyCHdACTj,0vP$CEMqyCHdACTj,=10000,0LhEd BmYL$Bi B008 A,K38 E,K28 I,K6",
    "1 O,K10 U,K01 DA,K45 DE,K07 <,K14 DO,K51 DU,L7 JA,K46 JE,=1000D,K36 JO,K65 JU,K77 KA,K44 KE,",
    "K67 KI,K70 KO,K81 KU,L0 ~,K13 _,K73 MI,K15 MO,K23 MU,K06 NA,K24 NE,K30 NI,K52 NO,L5 NU,K03 P",
    "A,K72 PE,K39 PI,K11 PO,K50 PU,K16 QA,K78 QE,K21 QI,K32 QO,=10028,K60 z,K27 v,K53 RI,K02 ^,K2",
    "6 RU,K31mA,K09mE,K41mI,K12mO,K58mU,L9 &,K04 TE,K37 s,K05 TO,K69 TU,K54 WA,K75 WE,K40 WI,L2 W",
    "O,=1003C,K17 ZA,K74 ZE,=1003F,K20 ZO,L5 A2,K43 A3,K85 AU,K71 DWE,K90 DWO,K48 NWA,K29 PU2,K62",
    " PTE,K76 z2,K33 z3,K68 ^2,L6 &2,K87 TWE,K91 TWO,=10050,BMBOL B018,J9,I22,I34,I47,J9,I56,I63,",
    "J4,I79,I82,J3,J6,J9,=10080,9IDEOGzM B100 Mk,L2 WOMk,L4 DEj,L5 EQUID,MF MdE,MMmTeLIl,L6F EWE,",
    "MM zM,L7Fm*-GOAT,MM *-GOAT,L8Fmr,MM BOd,L9F Cr,MM BULL,K20 W*AT,L1 BdiY,L2 OLIVE,L3mPICE,L5 ",
    "CYPjUS,9MlOGzM B127 KAPO,L8 KkAKO,9IDEOGzM B130 OIL,L1 WhE,L2,9MlOGzM B133 dEPA,L5 MjI,9IDEO",
    "GzM B140 BRlZE,L1 GOLD,L2,L5 WOOL,L6,K50,L1 H+N,L2,L3,L4,9MlOGzM B156 TU^2,9IDEOGzM B157,L8,",
    "L9 CLOx,K60,L1,L2 GdMqT,L3 dM%R,L4,L5,L6,L7,L8,L9,K70,L1,L2,L3 Mlx,L4,L6 TvE,L7,L8,L9,K80,L1",
    ",L2,L3,L4,L5,L9,K90,L1 *L_T,J220 FOOTSTOOL,L5 BAxTUB,K30mPEd,L1 dRr,L2,L3mW+D,L4,L6,K40 W*Ei",
    ".CHdIOT,L1 CHdIOT,L2 CHdIOyFz_,L3 W*EL,L5,L6,9MlOGzM B247 <PTE,9IDEOGzM B248,L9,K51,L2,L3,L4",
    " DdT,L5,L6,L7,L8,L9,IVESSEL B155,Q200,S1,S2,S3,S4,S5,S6,S7,S8,S9,R10,S1,S2,S3,S4,S5,S6,S7,S8",
    ",S9,R21,S2,S6,S7,S8,S9,R50,Q305,=10100,0AEGEk W+DmEPdAT+ LhE,MDOT,7C*CK MdK,=10107,7NUMBj lE",
    ",ETWO,FHvE,EF%R,FIVE,E:X,FEVq,EEf,ENhE,ETq,FWqTY,F|RTY,EF+TY,FIFTY,E:XTY,FEVqTY,EEfY,ENhETY,",
    "EltHUNDvD,ETWO HUNDvD,FHvtHUNDvD,EF%R HUNDvD,FIVtHUNDvD,E:X HUNDvD,FEVq HUNDvD,EEf HUNDvD,EN",
    "htHUNDvD,Eltx%SkD,ETWO x%SkD,FHvtx%SkD,EF%R x%SkD,FIVtx%SkD,E:X x%SkD,FEVq x%SkD,EEf x%SkD,E",
    "Nhtx%SkD,ETq x%SkD,FWqTY x%SkD,F|RTY x%SkD,EF+TY x%SkD,FIFTY x%SkD,E:XTY x%SkD,FEVqTY x%SkD,",
    "EEfY x%SkD,ENhETY x%SkD,=10137,7WEf BAStUNIT,EFIRSTmUBUNIT,ESEClDmUBUNIT,ExIRDmUBUNIT,EF%Rxm",
    "UBUNIT,7DRY _ASURtFIRSTmUBUNIT,7LIQUI._ASURtFIRSTmUBUNIT,7_ASUvmEClDmUBUNIT,FxIRDmUBUNIT,0Gv",
    "EK AC^PHlIC ATsC ltQUdTj,RHeF,RDzCH~,NFIVE,PFTY,PVtHUNDvD,Sx%SkD,PFTY x%SkD,PVtTeqTS,NTq Teq",
    "TS,NFIFTY TeqTS,NltHUNDRoTeqTS,NFIVtHUNDRoTeqTS,Nltx%Sk.TeqTS,NFIVtx%Sk.TeqTS,SS&TjS,NTqm&Tj",
    "S,NFIFTYm&TjS,NltHUNDvDm&TjS,NFIVtHUNDvDm&TjS,Nltx%SkDm&TjS,NTq x%SkDm&TjS,NFIFTY x%SkDm&TjS",
    ",NTq MNAS,HHjAEUM ltPixRl,HxESPIk lE,HHjMIlIk lE,HEPIDAUvk TWO,HxESPIk TWO,HCYRqAIC TWO DzCH",
    "~S,HEPIDAUvk TWO DzCH~S,HT^EZqIk FIVE,STq,V eTjNATEg,HHjMIlIk Tq,H_SSqIk Tq,HxESPIk Tq,R|RTY",
    ",I^EZqIk FIFTY,X eTjNATEg,HHjMIlIk FIFTY,HxESPIk FIFTY,QltHUNDvD,QxvtHUNDvD,HEPIDAUvk FIVtHU",
    "NDvD,HT^EZqIk FIVtHUNDvD,I*SPIk FIVtHUNDvD,HCdYSsk FIVtHUNDvD,HNAXIk FIVtHUNDvD,HxESPIk ltx%",
    "SkD,QFIVtx%SkD,HDELP|C FIVtMNAS,HSTzsk FIFTY MNAS,6ltHeFmw,J eTjNATEg,6TWO xIRDSmw,7HvtQUdTj",
    "Smw,6YEdmw,6TeqTmw,6DzCH~mw,6OBOLmw,6TWO OBOLSmw,7HvtOBOLSmw,6F%R OBOLSmw,7IVtOBOLSmw,6_TvTE",
    "Smw,6KYAxO!BASEmw,6LITzmw,6%NKIAmw,6XESTESmw,6d&BEmw,8%zmw,6GzM~mw,6TRYBLIl BASEmw,6ZjOmw,6l",
    "tQUdTjmw,6ShUSOIDmw,6h<Cslmw,0NOMI?Amw,=10190,0^MkmEXTkSmw,6UNCIAmw,6SEMUNCIAmw,8XTU$mw,6<MI",
    "<AmEXTU$mw,6:LIQUAmw,6DqdIUSmw,6QUhdIUSmw,6SESTjsUSmw,6DUPl<USmw,6ASmw,6CqTURIemw,0ASCIAm>,=",
    "101A0,0GvEKm> &U RHO,=101D0,0PuISTO!<SCmw PEDESTRIk,KLUMo*AD,J&TTOOo*AD,JCAPsVE,K|LD,JWOMk,J",
    "*L_T,JGAUNTiT,JsdA,JdRr,JBr,JS|ELD,JCLUB,JMkACiS,LTTOCK,JSAW,JLID,JBOOMjkG,JCdPqTRY PLkE,JDO",
    "LIUM,JCOMB,JSLhG,JCOLUMN,JBEE|VE,JS|P,JH+N,KIDE,JBULL!iG,JCAT,JzM,JEAGi,JDOVE,JTUNNY,JBEE,JP",
    "LktTvE,JVhE,JPAPYRUS,J^SETTE,JLILY,JOX BACK,JFLUTE,JGzTj,JSTzhj,KMeL AXE,JWAVY BkD,JCOMBhhG ",
    "OBLIQUEmT^KE,=10280,0LYCIk iTTj A,EE,EB,FH,EG,ED,EI,EW,EZ,Ex,EJ,EK,EQ,EL,EM,EN,EMM,ENN,EU,EP",
    ",EKK,ER,ES,ET,FT,Ek,Eq,EH,EX,=102A0,0CdIk iTTj A,EP2,ED,EL,EUUU,ER,ELD,EA2,EQ,EB,EM,EO,ED2,E",
    "T,ESH,G2,F,EC-18,EU,ENN,EX,EN,ETT2,EP,ESS,EI,EE,EUUUU,EK,F2,END,EUU,EG,F2,EST,G2,ENG,EII,EC-",
    "39,ETT,EUUU2,ERR,EMB,G2,G3,G4,ELD2,EE2,EUUU3,=102E0,1OPsC EPACyx%SkD!MdK,D<GIylE,JTWO,KHvE,J",
    "F%R,KIVE,J:X,KEVq,JEf,JNhE,DNUMBj Tq,LWqTY,L|RTY,KF+TY,LIFTY,K:XTY,LEVqTY,KEfY,KNhETY,KltHUN",
    "DvD,KTWO HUNDvD,LHvtHUNDvD,KF%R HUNDvD,LIVtHUNDvD,K:X HUNDvD,LEVq HUNDvD,KEf HUNDvD,KNhtHUND",
    "vD,=10300,0OL.ITeIC iTTj A,IBE,IKE,IDE,IE,IVE,IZE,I*,IxE,II,IKA,IEL,JM,JN,JSH,IO,IPE,IS*,IKU",
    ",Ij,JS,ITE,IU,IEKS,IP*,IK*,IEF,JRS,IC*,III,IUU,IESS,BNUMje lE,JFIVE,JTq,JFIFTY,=1032D,BiTTj ",
    "YE,IN+xjN TSE,IS%xjN TSE,0GOxIC iTTj AHSA,EBAIRKk,EGIBA,EDAGS,EAIHVUS,EQAIRxz,EIUJA,EuGL,ExI",
    "Ux,EEIS,EKU?A,E$GUS,EMkNA,ENAUxS,EJj,EURUS,EPAIRxz,ENhETY,EzIDA,ESAUIL,ETEIWS,EWhJA,EFAIHU,E",
    "IGGWS,EHWAIR,EOxe,ENhtHUNDvD,=10350,0OL.PjMIC iTTj k,IBUR,IGAI,IDOI,IE,IZHOI,IDZHOI,IZA&,IDZ",
    "I&,II,IKOKE,IiI,IMqOE,INqOE,IVOOI,IPEEI,IvI,I:I,I&I,IU,ICHjY,ISHOOI,KCHOOI,IYRY,JjU,IO,JO,IE",
    "F,Iu,IT:U,IVj,IYj,LI,JAT,IIE,IYU,JA,IIA,0COMBhhG OL.PjMIC iTTj k,SDOI,SZA&,SNqOE,S:I,=10380,",
    "0UGdIsC iTTj ePA,GBE&,GGAM$,GKu,GDEL&,GHO,GWO,GZE&,GHO&,GTET,GYOD,GKAF,GSHh,G$MDA,G_M,GDHe,G",
    "NUN,GZU,GSAMKA,GAh,GPU,GSADE,GQOPA,GzSu,GxkNA,GGuh,GTO,GI,GU,GSSU,=1039F,9W+.<VIDj,0OL.Pj:km",
    "w A,HI,HU,HKA,IU,HGA,IU,HXA,HCA,HJA,II,H&,IU,HDA,II,IU,HTu,HPA,HBA,HFA,HNA,IU,H~,II,IU,HYA,H",
    "VA,II,Hz,IU,H$,HSA,HZA,HSu,ISA,Hu,=103C8,HAUz~ZDAA,R-2,Ru,HXSuAYAxIYA,HDAHYAAUSH,Q-2,HBAGA,I",
    "UUMISH,CW+.<VIDj,CNUMBj lE,JTWO,Kq,KWqTY,JHUNDvD,=10400,0DESjEycaLlG I,SE,SA,TH,SO,TO,NSH+yI",
    ",TE,TA,UH,TO,UO,NAY,Nr,NWU,NYEE,NH,NPEE,NBEE,NTEE,NDEE,NC*E,NJEE,NKAY,NGAY,NEF,NVEE,NEx,NxEE",
    ",NES,NZEE,NESH,NZ*E,Nj,OL,OM,ON,PG,NOI,NEW,8?eaLlG I,QE,QA,RH,QO,RO,LSH+yI,RE,RA,SH,RO,SO,LA",
    "Y,Lr,LWU,LYEE,LH,LPEE,LBEE,LTEE,LDEE,LC*E,LJEE,LKAY,LGAY,LEF,LVEE,LEx,LxEE,LES,LZEE,LESH,LZ*",
    "E,Lj,ML,MM,MN,NG,LOI,LEW,0SuVIk iTTj PEEP,FTOT,FKICK,FFEE,FxIGH,FSO,GUv,FCHURCH,FYEA,FHUNG,F",
    "BIB,FDEAD,FGAG,FVr,FxEY,FZOO,F_ASUv,FJUDGE,FWOE,Fu-u,FLOLL,FMI_,FIF,FEGG,FASH,GDO,Fl,FWOOL,F",
    "%T,FAH,F^d,FNUN,FEAT,FAGE,FICE,FUP,FOAK,GOZE,GIL,FAWE,Gv,F+,FAIR,FjR,FdzY,FEd,FIk,FYEW,0O?kY",
    "A iTTj eEF,FBA,F&,FJA,FXA,FKu,FDEEL,Fz,FSA,G|h,FDu,FCAYN,FGA,FFA,FQAAF,FKAAF,F$k,FMIh,FNUUN,",
    "FWAW,Fu,FYA,FA,FE,FI,FO,FU,FAA,FEE,FOO,=104A0,8<GIyZjO,ElE,ETWO,FHvE,EF%R,FIVE,E:X,FEVq,EEf,",
    "ENhE,=104B0,2AGtcaA,MI,NN,MH,LBz,LCu,LEHCu,M,Mh,Lu,MYA,LI,LKA,LEHKA,LKYA,L$,L~,LNA,LO,Mh,LPA",
    ",LEHPA,LSA,Mu,L&,LEH&,LTSA,LEHTSA,LTSu,LDu,LU,LWA,LKu,LGu,LZA,Mu,=104D8,6?eaA,KI,LN,KH,JBz,J",
    "Cu,JEHCu,K,Kh,Ju,KYA,JI,JKA,JEHKA,JKYA,J$,J~,JNA,JO,Kh,JPA,JEHPA,JSA,Ku,J&,JEH&,JTSA,JEHTSA,",
    "JTSu,JDu,JU,JWA,JKu,JGu,JZA,Ku,=10500,0ELBASk iTTj A,FBE,FCE,G*,FDE,FNDE,FD*,FEI,G,FFE,FGE,G",
    "JE,F*,FI,FJE,FKE,Fi,Gi,F_,FNE,GA,GJE,FO,FPE,FQE,Fv,Gv,FSE,G*,FTE,G*,FU,FVE,FXE,FY,FZE,G*,FG*",
    ",HAM~,FK*,=10530,0CAUCA:k eBkIk iTTj eT,QBET,QGIM,QDAT,QEB,QZdL,QEYN,QZ|L,Q&S,QCu,QYrD,QZu,Q",
    "IRB,QSu,QLk,QhYA,QXEYN,QDYk,QCd,QJHOX,QKd,QLYIT,Q*YT,QQAY,QA+,QCHOY,SI,RYAY,Q~Q,QQd,QNrC,QDZ",
    "YAY,QSuK,QJAYN,Ql,QTYAY,QFAM,QDZAY,QCuT,QPq,QG*YS,QzT,QSEYK,QVEYZ,QsWR,QSHOY,QIWN,QCYAW,RAYN",
    ",QYAYD,QPIWR,QKIW,=1056F,JCI&sl MdK,0VIxKUQI caA,OBBE,PE,OCE,P*,ODE,P*,OEI,P,OFE,OGA,=1057C,",
    "Ou,Pu,OI,PJE,OJE,OKA,O$,P$,O_,ONE,PJE,OO,OPE,OQA,Ov,=1058C,OSE,P*,OTE,P*,OU,OVE,OXE,=10594,O",
    "Y,OZE,=10597,9?eaA,MBBE,NE,MCE,N*,MDE,N*,MEI,N,MFE,MGA,=105A3,Mu,Nu,MI,NJE,MJE,MKA,M$,N$,M_,",
    "MNE,NJE,MO,MPE,MQA,Mv,=105B3,MSE,N*,MTE,N*,MU,MVE,MXE,=105BB,MY,MZE,=10600,0LhEd Amw AB001,I",
    "2,I3,I4,I5,I6,I7,I8,I9,H10,I1,I3,I6,I7,H20,I1,JF,JM,I2,JF,JM,I3,JM,I4,I6,I7,I8,F028B,FB029,H",
    "30,I1,I4,I7,I8,I9,H40,I1,I4,I5,I6,I7,I8,I9,H50,I1,I3,I4,I5,I6,I7,I8,I9,H60,I1,I5,I6,I7,I9,H7",
    "0,I3,I4,I6,I7,I8,I9,H80,I1,I2,I5,I6,I7,F100-102,FB118,H20,F120B,FB122,I3,H31A,JB,F131C,FB164",
    ",H71,H80,I8,H91,F301,H2,H3,H4,H5,H6,H7,H8,H9A,IB,IC,G10,H1,H2,H3A,IB,IC,H4,H5,H6,H7,H8,H9,G2",
    "0,H1,H2,H3,H4,H5,H6,H7,H8,H9,G30,H1,H2,H3,H4,H5,H6,H7,H8,H9,G40,H1,H2,H3,H4,H5,H6,H7,H8,H9,G",
    "50,H1,H2,H3,H4,H5,H6,H7,H8,H9,G60,H1,H2,H3,H4,H5,H6,H7,H8,H9,G70,H1,F400-VAS,H1-VAS,H2-VAS,H",
    "3-VAS,H4-VAS,H5-VAS,H6-VAS,H7-VAS,H8-VAS,H9-VAS,G10-VAS,H1-VAS,H2-VAS,H3-VAS,H4-VAS,H5-VAS,H",
    "6-VAS,H7-VAS,H8-VAS,F501,H2,H3,H4,H5,H6,H8,H9,G10,H1,H2,H3,H5,H6,G20,H1,H3,H4,H5,H6,H7,H8,H9",
    ",G30,H1,H2,H4,H5,H6,H7,H8,H9,G40,H1,H2,H5,H7,H8,H9,G50,H1,H2,H3,H4,H5,H6,H7,H9,G63,H4,H5,H6,",
    "H8,H9,G70,H1,H2,H3,H4,H5,H6,H7,H8,H9,G80,H1,H2,H3,H4,H5,H6,H7,H8,H9,G91,H2,H4,"]

end CharName

end Marginalia
