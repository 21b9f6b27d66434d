/-!
# Names of characters from 0x10700 to 0x1d8ff

The names of Unicode 14 in the packed form that `CharName.seek` reads.
-/

namespace Marginalia

namespace CharName

/-- The packed names of these characters. -/
def part4 : List String :=
  ["=10700,0LhEd Amw A595,H6,H8,F600,H1,H2,H3,H4,H6,H8,H9,G10,H1,H2,H3,H4,H5,H6,H7,H8,H9,G20,H1,",
    "H2,H3,H4,H6,H7,H8,H9,G34,H7,H8,G40,H2,H3,H4,H5,H6,H8,H9,G51,H2,H3,H4,H5,H6,H7,H8,H9,G60,H1,H",
    "2,H3,H4,=10740,F701 A,H2 B,H3 D,H4 E,H5 F,H6 H,H7 J,H8 K,H9 L,I-2 L2,J3 L3,J4 L4,J6 L6,G10 W",
    ",H1 X,H2 Y,H3 O_GA,H4 ABB,H5 BB,H7 DD,G26 EYYY,G32 JE,=10760,F800,H1,H2,H3,H4,H5,H6,H7,=1078",
    "0,0MO<FIj iTTjmMeL cL AA,HUPjSCRIPyTRIkGULd COLl,SHeF TRIkGULd COLl,HMeL AE,McL B,MBbHOOK,=1",
    "0787,MDZ <GzPH,WbvT^FiX HOOK,cCURL,NEZH <GzPH,Nb&IL,THOOK,X k.&IL,MvVjSoE,MCLOSovVjSoOPq E,M",
    "FqG <GzPH,MzM!H+N,McL G,MGbHOOK,McL GbHOOK,MHbST^KE,McL H,MHqGbHOOK,MDOTiS!JbST^Ktk.HOOK,ML!",
    "<GzPH,NZ <GzPH,NbBELT,McL LbBELT,MLbvT^FiX HOOK k.BELT,NEZH,QbvT^FiX HOOK,MTURNoY,UbBELT,MOb",
    "ST^KE,McL OE,NLOSoO_GA,MQ,MTURNoRbLlG iG,i k.vT^FiX HOOK,MRb&IL,TFISHHOOK,McL R,MTC <GzPHbCU",
    "RL,N!<GzPH,WbvT^FiX HOOK,NESH <GzPH,NbvT^FiX HOOK,MVbRf HOOK,=107B2,McL Y,GGLOTTemTOPbST^KE,",
    "GvVjSoGLOTTemTOPbST^KE,GBI$BIe CLICK,GDqTe CLICK,G$Tje CLICK,GeVEOLd CLICK,GvT^FiX CLICKbvT^",
    "FiX HOOK,G?eLmbCURL,=10800,0CYPRIOTmYL$Bi A,HE,HI,HO,HU,HJA,=10808,IO,=1080A,HKA,IE,II,IO,IU",
    ",H$,IE,II,IO,IU,H~,IE,II,IO,IU,HNA,IE,II,IO,IU,HPA,IE,II,IO,IU,Hz,IE,II,IO,IU,HSA,IE,II,IO,I",
    "U,H&,IE,II,IO,IU,HWA,IE,II,IO,=10837,HXA,IE,=1083C,HZA,=1083F,IO,0IMPjIe dA~IC iTTj eEPH,OBE",
    "x,OGI_L,ODeEx,O*,OWAW,OZAYh,O*x,OTEx,OYODH,OKAPH,O$_DH,O_M,ONUN,OSA_KH,OAYh,OPE,OSAD*,OQOPH,",
    "OvSH,OSHh,O&W,=10857,HSECslmw,HNUMBj lE,OTWO,PHvE,Pq,PWqTY,OltHUNDvD,Sx%SkD,OTq x%SkD,0PeMYR",
    "qtiTTj eEPH,HBEx,HGI_L,HDeEx,H*,HWAW,HZAYh,H*x,HTEx,HYODH,HKAPH,H$_DH,H_M,HFhe NUN,HNUN,HSA_",
    "KH,HAYh,HPE,HSAD*,HQOPH,HvSH,HSHh,H&W,CFT-POhThG FiURl,ARf-POhThG FiURl,ANUMBj lE,HTWO,IHvE,",
    "HF%R,IIVE,HTq,IWqTY,0NABA&Ek iTTj Fhe eEPH,HeEPH,HFhe BEx,HBEx,HGI_L,HDeEx,HFhe *,H*,HWAW,HZ",
    "AYh,H*x,HTEx,HFhe YODH,HYODH,HFhe KAPH,HKAPH,HFhe $_DH,H$_DH,HFhe _M,H_M,HFhe NUN,HNUN,HSA_K",
    "H,HAYh,HPE,HSAD*,HQOPH,HvSH,HFhemHh,HSHh,H&W,=108A7,ANUMBj lE,HTWO,IHvE,HF%R,ACRUCIF+M NUMBj",
    " F%R,ANUMBj FIVE,HTq,IWqTY,HltHUNDvD,=108E0,0uTRk iTTj eEPH,EBEx,EGI_L,EDeEx-vSH,E*,EWAW,EZA",
    "YN,E*x,ETEx,EYODH,EKAPH,E$_DH,E_M,ENUN,ESA_KH,EAYN,EPE,ESAD*,EQOPH,=108F4,ESHh,E&W,=108FB,7N",
    "UMBj lE,EFIVE,ETq,FWqTY,EltHUNDvD,0PHOqICIk iTTj eF,IBET,IGAML,IDELT,I*,IWAU,IZAI,I*T,ITET,I",
    "YOD,IKAF,I$MD,I_M,INUN,ISEMK,IAh,IPE,ISADE,IQOF,I^SH,ISHh,I&U,BNUMBj lE,ITq,JWqTY,IltHUNDvD,",
    "ITWO,JHvE,=1091F,BW+DmEPdAT+,0LY<k iTTj A,EB,EG,ED,EE,EV,EI,EY,EK,EL,EM,EN,EO,ER,ESS,ET,EU,E",
    "F,EQ,ES,ETT,Ek,Eq,ELY,ENN,EC,=1093F,7TRIkGULd MdK,=10980,0MjOIsC |jOGLYP|C iTTj A,TE,TI,TO,T",
    "YA,TWA,TBA,V-2,TPA,T~,TNA,V-2,UE,V-2,Tz,V-2,T$,TKu,THu,TSA,V-2,UE,TKA,TQA,T&,V-2,UE,V-2,UO,T",
    "DA,MS> VIDJ,X-2,9CUR:VtiTTj A,OE,OI,OO,OYA,OWA,OBA,OPA,O~,ONA,PE,Oz,O$,OKu,OHu,OSA,OdCuICmA,",
    "OSE,OKA,OQA,O&,PE,PO,ODA,=109BC,HFzCsl EiVq TWELFxS,QltHeF,HLOGOGzM RMT,QIMN,HNUMBj lE,OTWO,",
    "PHvE,OF%R,PIVE,O:X,PEVq,OEf,ONhE,OTq,PWqTY,P|RTY,OF+TY,PIFTY,O:XTY,PEVqTY,=109D2,OltHUNDvD,O",
    "TWO HUNDvD,PHvtHUNDvD,OF%R HUNDvD,PIVtHUNDvD,O:X HUNDvD,PEVq HUNDvD,OEf HUNDvD,ONhtHUNDvD,Ol",
    "tx%SkD,OTWO x%SkD,PHvtx%SkD,OF%R x%SkD,PIVtx%SkD,O:X x%SkD,PEVq x%SkD,OEf x%SkD,ONhtx%SkD,OT",
    "q x%SkD,PWqTY x%SkD,P|RTY x%SkD,OF+TY x%SkD,PIFTY x%SkD,O:XTY x%SkD,PEVqTY x%SkD,OEfY x%SkD,",
    "ONhETY x%SkD,OltHUNDRox%SkD,OTWO HUNDRox%SkD,PHvtHUNDRox%SkD,OF%R HUNDRox%SkD,PIVtHUNDRox%Sk",
    "D,O:X HUNDRox%SkD,PEVq HUNDRox%SkD,OEf HUNDRox%SkD,ONhtHUNDRox%SkD,HFzCsl ltTWELFx,QTWO TWEL",
    "FxS,RHvtTWELFxS,QF%R TWELFxS,RIVtTWELFxS,Q:X TWELFxS,REVq TWELFxS,QEf TWELFxS,QNhtTWELFxS,QT",
    "q TWELFxS,0KHdOSHxI iTTj A,BVrELmw I,MU,MVOCeIC R,=10A05,ME,MO,=10A0C,HiNGx MdK,BSw D%Bi RhG",
    " BELr,GkUSVdA,GVISdGA,BiTTj KA,Ju,IGA,Ju,=10A15,ICA,Ju,IJA,=10A19,INYA,IT&,Ku,IDDA,Ku,INNA,I",
    "&,Ju,IDA,Ju,INA,IPA,Ju,IBA,Ju,I~,IYA,Iz,I$,IVA,ISu,JSA,JA,IZA,Iu,IKKA,ITTTu,LA,IVu,=10A38,BS",
    "w Bdn,GCAUDA,GDOyBELr,=10A3F,BVIz~,B<GIylE,HTWO,IHvE,HF%R,BNUMBj Tq,JWqTY,IltHUNDvD,Mx%SkD,B",
    "FzCsl ltHeF,=10A50,BPUNCTUAsl DOT,N?eL ;i,N;i,OvSCqyBd,NMkGeAM,NLOTUS,NDkDA,O%Bi DkDA,NLhES,",
    "=10A60,0OLDm%x dABIk iTTj *,P$_DH,P*x,P_M,PQOPH,PWAW,PSHh,PvSH,PBEx,P&W,PSAT,PKAPH,PNUN,PK*x",
    ",PSAD*,R_KH,PFE,PeEF,QYN,PDuD*,PGI_L,PDeEx,PGuYN,PTEx,PZAYN,PDHeEx,PYODH,PTuW,REx,INUMBj lE,",
    "PFIFTY,LjIC h<CAT+,4N+x dABIk iTTj *H,P$M,PuH,P_EM,PQAF,PWAW,PES-2,PvH,PBEH,PTEH,PES-1,PKAF,",
    "PNOl,PKuH,PSAD,PES-3,PFEH,PeEF,Qh,PDAD,PGEEM,PDe,PGuh,P&H,PZAh,Pxe,PYEH,PxEH,PZAH,INUMBj lE,",
    "PTq,QWqTY,=10AC0,0MkICuEk iTTj eEPH,IBEx,J*x,IGI_L,J|_L,IDeEx,I*,IWAW,BSw UD,BiTTj ZAYh,JuYh",
    ",IJAYh,JuYh,I*x,ITEx,IYODH,IKAPH,IXAPH,IKuPH,I$_DH,IDu_DH,ITu_DH,I_M,INUN,ISA_KH,IAYh,JAYh,I",
    "PE,IFE,ISAD*,IQOPH,IXOPH,IQHOPH,IvSH,ISHh,JSHh,I&W,BABBvVIAsl MdKn,TBELr,=10AEB,BNUMBj lE,IF",
    "IVE,ITq,JWqTY,IltHUNDvD,BPUNCTUAslmTd,NFiURl,ND%Bi DOyWIxh DOT,PyWIxh DOT,Q,NTWO DOTS,NLhtFI",
    "LiR,=10B00,0AVESTk iTTj A,GA,GO,GAO,GN,Gk,GE,HE,FE,GE,FO,GO,FI,GI,FU,GU,FKE,FXE,GYE,GVE,FGE,",
    "GGE,G*,FCE,FJE,FTE,G*,FDE,G*,FTTE,FPE,FFE,FBE,G*,FNGE,HYE,HVE,GE,GYE,GNE,F_,FH_,FYYE,GE,FVE,",
    "Fv,Fi,FSE,FZE,FS*,FZ*,FSHYE,GS*,F*,=10B39,8ABBvVIAsl MdK,0ThY TWO DOT!OVj ltDOyPUNCTUAsl,0?e",
    "L TWO DOT!OVj ltDOyPUNCTUAsl,0LdGtTWO DOT!OVj ltDOyPUNCTUAsl,6ltDOyOVj TWO DOT!PUNCTUAsl,6TW",
    "O RhG!OVj ltRhG PUNCTUAsl,6ltRhG OVj TWO RhG!PUNCTUAsl,0hSCRIPsle PdxIk iTTj eEPH,UBEx,UGI_L",
    ",UDeEx,U*,UWAW,UZAYh,U*x,UTEx,UYODH,UKAPH,U$_DH,U_M,UNUN,USA_KH,UAYh,UPE,USAD*,UQOPH,UvSH,US",
    "Hh,U&W,=10B58,NNUMBj lE,UTWO,VHvE,UF%R,UTq,VWqTY,UltHUNDvD,Yx%SkD,GH$VI iTTj eEPH,TBEx,TGI_L",
    ",TDeEx,T*,TWAW-AYh-vSH,TZAYh,T*x,TTEx,TYODH,TKAPH,T$_DH,T_M-QOPH,TNUN,TSA_KH,TPE,TSAD*,UHh,T",
    "&W,=10B78,MNUMBj lE,TTWO,UHvE,TF%R,TTq,UWqTY,TltHUNDvD,Xx%SkD,0PSeTj PAH$VI iTTj eEPH,NBEx,N",
    "GI_L,NDeEx,N*,NWAW-AYh-vSH,NZAYh,N*x,NYODH,NKAPH,N$_DH,N_M-QOPH,NNUN,NSA_KH,NPE,NSAD*,OHh,N&",
    "W,=10B99,GSECsl MdK,GTURNEDmECsl MdK,GF%R DOTSbC^SS,VDOT,=10BA9,GNUMBj lE,NTWO,OHvE,NF%R,NTq",
    ",OWqTY,NltHUNDvD,=10C00,0OL.TURKIC iTTj +KHl A,IYqISEI A,RE,I+KHl I,IYqISEI I,QE,I+KHl O,QE,",
    "IYqISEI OE,I+KHl AB,IYqISEI AB,I+KHl AEB,IYqISEI AEB,I+KHl AG,IYqISEI AG,I+KHl AEG,IYqISEI A",
    "EG,I+KHl AD,IYqISEI AD,I+KHl AED,PEZ,IYqISEI EZ,I+KHl AY,IYqISEI AY,I+KHl AEY,IYqISEI AEY,I+",
    "KHl AEK,IYqISEI AEK,I+KHl OEK,IYqISEI OEK,I+KHl e,IYqISEI e,I+KHl AEL,PELT,QM,Pk,Qq,IYqISEI ",
    "Aq,I+KHl qT,IYqISEI qT,I+KHl qC,IYqISEI qC,I+KHl qY,IYqISEI qY,QkG,I+KHl qG,IYqISEI AqG,I+KH",
    "l EP,POP,PIC,PEC,IYqISEI EC,I+KHl AQ,IYqISEI AQ,I+KHl IQ,IYqISEI IQ,I+KHl OQ,IYqISEI OQ,I+KH",
    "l d,IYqISEI d,I+KHl Aj,QS,QES,QSH,IYqISEI ASH,I+KHl ESH,IYqISEI ESH,I+KHl AT,IYqISEI AT,I+KH",
    "l AET,IYqISEI AET,I+KHl OT,PBASH,=10C80,4HUNGdIk caA,UA,TEB,TAMB,TEC,UNC,UCS,UD,TkD,TE,TCLOS",
    "tE,TEE,UF,UG,VY,UH,TI,UI,TEJ,UK,TAK,TUNK,TEL,VY,UM,UN,VY,TO,UO,TNIKOLSBURG OE,TRU<Mq& OE,TOE",
    "E,TEP,UMP,UR,TSH+yj,TES,VZ,UT,UNT,UTY,UCH,TU,UU,TNIKOLSBURG UE,TRU<Mq& UE,TEV,UZ,VS,UNT-SuPE",
    "Dmw,TUS,=10CC0,E?eaA,SA,REB,RAMB,REC,SNC,SCS,SD,RkD,RE,RCLOStE,REE,SF,SG,TY,SH,RI,SI,REJ,SK,",
    "RAK,RUNK,REL,TY,SM,SN,TY,RO,SO,RNIKOLSBURG OE,RRU<Mq& OE,ROEE,REP,SMP,SR,RSH+yj,RES,TZ,ST,SN",
    "T,STY,SCH,RU,SU,RNIKOLSBURG UE,RRU<Mq& UE,REV,SZ,TS,SNT-SuPEDmw,RUS,=10CFA,ENUMBj lE,LFIVE,L",
    "Tq,LFIFTY,LltHUNDvD,Px%SkD,0HkIFI ^HhGYA iTTj A,NBA,NPA,N&,O&,NJA,NCA,Nu,NKu,NFA,NDA,ODA,Nz,",
    "Oz,NZA,NSA,Ou,NKA,NGA,N$,N~,NNA,NWA,NKhNA WA,NYA,NKhNA YA,NNGA,OYA,NVA,GVrEL A,MI,MU,ME,MO,G",
    "MdKmAKh,LNA KHlNA,GSw HdBAuY,L&HeA,NNA,NS:,=10D30,G<GIyZjO,MlE,MTWO,NHvE,MF%R,NIVE,M:X,NEVq,",
    "MEf,MNhE,=10E60,0RUMI <GIylE,BTWO,CHvE,BF%R,CIVE,B:X,CEVq,BEf,BNhE,5NUMBj Tq,DWqTY,D|RTY,CF+",
    "TY,DIFTY,C:XTY,DEVqTY,CEfY,CNhETY,CltHUNDvD,CTWO HUNDvD,DHvtHUNDvD,CF%R HUNDvD,DIVtHUNDvD,C:",
    "X HUNDvD,DEVq HUNDvD,CEf HUNDvD,CNhtHUNDvD,5FzCsl ltHeF,IQUdTj,IxIRD,ETWO xIRDS,=10E80,0YEZI",
    "< iTTj ELIF,EBE,EPE,F*,ExE,ESE,ECIM,F|M,G|M,EHu,EXA,EDe,EZe,Ez,Fu,EZA,EJA,ESh,FHh,FAD,EDAD,E",
    "&,EZE,EEYN,EX*YN,EFA,EVA,G eTjNATEg,EQAF,EKAF,FuF,EGAF,E$M,EMIM,ENUN,EUM,EWAW,Er,EEW,EuY,EYO",
    "T,EET,=10EAB,7COMBhhG uMZA MdK,H~DDA MdK,7HYPHqAsl MdK,=10EB0,7iTTj $MbDOTn,EYOTb;UMFiXn,=10",
    "F00,0OLDmOG<k iTTj eEPH,JFhe eEPH,JBEx,JFhe BEx,JGI_L,J*,JFhe *,JWAW,JZAYh,J*x,JYODH,JKAPH,J",
    "$_DH,J_M,JNUN,JFhe NUN,SbVjsCe &IL,JSA_KH,JAYh,KLTjNATtAYh,JPE,JSAD*,JFhemAD*,UbVjsCe &IL,Jv",
    "SH-AYh-DeEx,JSHh,J&W,JFhe &W,SbVjsCe &IL,CNUMBj lE,JTWO,KHvE,JF%R,KIVE,JTq,KWqTY,K|RTY,JltHU",
    "NDvD,CFzCsl ltHeF,CLIGATURtAYh-DeEx,=10F30,0SOG<k iTTj eEPH,FBEx,FGI_L,F*,FWAW,FZAYh,F*x,FYO",
    "DH,FKAPH,F$_DH,F_M,FNUN,FSA_KH,FAYh,FPE,FSAD*,FvSH-AYh,FSHh,F&W,FFEx,FiSH,8hDEPqDqTmHh,8COMB",
    "hhG DOyBELr,ITWO DOT!BELr,IDOTn,ITWO DOTSn,ICURVEn,OBELr,IHOOKn,NBELr,ILlG HOOK BELr,IvSH BE",
    "Lr,IST^KtBELr,8NUMBj lE,FTq,GWqTY,FltHUNDvD,8PUNCTUAsl TWO VjsCe BdS,bbDOTS,K;ibDOT,KTWO ;iS",
    "bDOTS,KHeF ;ibDOT,=10F70,0OL.UYGHUR iTTj eEPH,IBEx,IGI_L-*x,IWAW,IZAYh,IFhe *x,IYODH,IKAPH,I",
    "$_DH,I_M,INUN,ISA_KH,IPE,ISAD*,IvSH,ISHh,I&W,IiSH,BCOMBhhG DOTn,PBELr,LTWO DOTSn,UBELr,BPUNC",
    "TUAsl Bd,NTWO BdS,RDOTS,NF%R DOTS,=10FB0,0CHOz?Ik iTTj eEPH,I?eL eEPH,IBEx,IGI_L,IDeEx,I*,IW",
    "AW,ICURi.WAW,IZAYh,I*x,IYODH,IKAPH,I$_DH,I_M,INUN,ISA_KH,IAYh,IPE,IvSH,ISHh,I&W,BNUMBj lE,IT",
    "WO,JHvE,IF%R,ITq,JWqTY,IltHUNDvD,=10FE0,0ELY~IC iTTj eEPH,FBEx,FGI_L,FDeEx,F*,FWAW,FZAYh,F*x",
    ",FTEx,FYODH,FKAPH,F$_DH,F_M,FNUN,FSA_KH,FAYh,FPE,FSAD*,FQOPH,FvSH,FSHh,F&W,9IGATURtZAYh-YODH",
    ",=11000,0BzHMImw CkDzBhDU,CkUSVdA,CVISdGA,CJIHVAMULIYA,CUPADHMkIYA,7iTTj A,FA,EI,FI,EU,FU,EV",
    "OCeIC R,NR,ML,NL,EE,EAI,EO,EAU,EKA,Fu,EGA,Fu,ENGA,ECA,Fu,EJA,Fu,ENYA,ET&,Gu,EDDA,Gu,ENNA,E&,",
    "Fu,EDA,Fu,ENA,EPA,Fu,EBA,Fu,E~,EYA,Ez,E$,EVA,ESu,FSA,FA,Eu,EL$,EOL.&MIL LL$,ORz,ONNNA,7VrELm",
    "w AA,IBuTsP^LU AA,II,JI,IU,JU,IVOCeIC R,RR,QL,RL,IE,IAI,IO,IAU,8Iz~,7DkDA,8%Bi DkDA,7PUNCTUA",
    "sl DOT,LUBi DOT,JLhE,JCvSCqyBd,JLOTUS,=11052,7NUMBj lE,ETWO,FHvE,EF%R,FIVE,E:X,FEVq,EEf,ENhE",
    ",ETq,FWqTY,F|RTY,EF+TY,FIFTY,E:XTY,FEVqTY,EEfY,ENhETY,EltHUNDvD,Ix%SkD,7<GIyZjO,DlE,DTWO,EHv",
    "E,DF%R,EIVE,D:X,EEVq,DEf,DNhE,7Sw OL.&MIL VIz~,7iTTj OL.&MILmH+yE,UO,7VrELmw OL.&MILmH+yE,YO",
    ",7iTTj OL.&MIL L$,=1107F,7NUMBj JOhj,0KAIxImw CkDzBhDU,CkUSVdA,CVISdGA,7iTTj A,FA,EI,FI,EU,F",
    "U,EE,EAI,EO,EAU,EKA,Fu,EGA,Fu,ENGA,ECA,Fu,EJA,Fu,ENYA,ET&,Gu,EDDA,GDu,Gu,ERu,ENNA,E&,Fu,EDA,",
    "Fu,ENA,EPA,Fu,EBA,Fu,E~,EYA,Ez,E$,EVA,ESu,FSA,FA,Eu,7VrELmw AA,II,JI,IU,JU,IE,IAI,IO,IAU,7Sw",
    " VIz~,CNUK&,7ABBvVIAslmw,7qUMjAslmw,7NUMBjmw,7SECsl MdK,7D%BimECsl MdK,8kDA,8%Bi DkDA,7VrELm",
    "w VOCeIC R,=110CD,7NUMBjmwn,=110D0,0SOzmOMPqG iTTjmAH,K&H,KBAH,KCAH,KDAH,KGAH,K~H,KNGAH,K$H,",
    "KNAH,KVAH,KPAH,KYAH,KzH,KuH,KKAH,KJAH,KNYAH,KAH,KEEH,KIH,KUH,KOH,KEH,K~E,=110F0,D<GIyZjO,JlE",
    ",JTWO,KHvE,JF%R,KIVE,J:X,KEVq,JEf,JNhE,=11100,0CuK~mw CkDzBhDU,CkUSVdA,CVISdGA,7iTTj AA,EI,E",
    "U,EE,EKAA,FuA,EGAA,FuA,ENGAA,ECAA,FuA,EJAA,FuA,ENYAA,ET&A,GuA,EDDAA,GuA,ENNAA,E&A,FuA,EDAA,F",
    "uA,ENAA,EPAA,FuA,EBAA,FuA,E~A,EYYAA,FAA,EzA,E$A,EWAA,ESAA,EuA,7VrELmw A,II,JI,IU,JU,IE,IAI,I",
    "O,IAU,IOI,7O MdK,7AU MdK,7VIz~,7~AYYAA,=11136,7<GIyZjO,DlE,DTWO,EHvE,DF%R,EIVE,D:X,EEVq,DEf,",
    "DNhE,7SECsl MdK,7DkDA,8%Bi DkDA,7QUESsl MdK,7iTTj LuA,7VrELmw AA,IEI,7iTTj VAA,=11150,0~uJkI",
    " iTTj A,GI,GU,GE,GO,GKA,Hu,GGA,Hu,GCA,Hu,GJA,Hu,GNYA,GT&,Iu,GDDA,Iu,GNNA,G&,Hu,GDA,Hu,GNA,GP",
    "A,Hu,GBA,Hu,G~,Gz,G$,GVA,GSA,Gu,GRz,9Sw NUK&,9ABBvVIAslmw,9SECsl MdK,9LIGATUvmHRI,=11180,0SH",
    "dADAmw CkDzBhDU,DkUSVdA,DVISdGA,8iTTj A,GA,FI,GI,FU,GU,FVOCeIC R,OR,NL,OL,FE,FAI,FO,FAU,FKA,",
    "Gu,FGA,Gu,FNGA,FCA,Gu,FJA,Gu,FNYA,FT&,Hu,FDDA,Hu,FNNA,F&,Gu,FDA,Gu,FNA,FPA,Gu,FBA,Gu,F~,FYA,",
    "Fz,F$,G$,FVA,FSu,GSA,GA,Fu,8VrELmw AA,JI,KI,JU,KU,JVOCeIC R,SR,RL,SL,JE,JAI,JO,JAU,8Sw VIz~,",
    "DAVAGzu,DJIHVAMULIYA,DUPADHMkIYA,8OM,8DkDA,9%Bi DkDA,8ABBvVIAslmw,8SEPdAT+,9kD| MdK,9w NUK&,",
    "8VrEL MO<FIj MdK,8EXTzmH+yVrEL MdK,8SUTz MdK,8VrELmw PRISHTu~Tz E,8Sw hVjToCkDzBhDU,8<GIyZjO",
    ",ElE,ETWO,FHvE,EF%R,FIVE,E:X,FEVq,EEf,ENhE,8EKAM,8SwmIDDuM,8*ADST^KE,8ClThUAslmw,8SECsl MdK-",
    "1,L2,=111E1,1hHeA dCuIC <GIylE,MTWO,NHvE,MF%R,NIVE,M:X,NEVq,MEf,MNhE,GNUMBj Tq,OWqTY,O|RTY,N",
    "F+TY,OIFTY,N:XTY,OEVqTY,NEfY,NNhETY,NltHUNDvD,Rx%SkD,=11200,0KHOJKI iTTj A,FA,EI,EU,EE,EAI,E",
    "O,EAU,EKA,Fu,EGA,FGA,Fu,ENGA,ECA,Fu,EJA,FJA,=11213,ENYA,ET&,Gu,EDDA,Gu,ENNA,E&,Fu,EDA,FDDA,F",
    "u,ENA,EPA,Fu,EBA,FBA,Fu,E~,EYA,Ez,E$,EVA,ESA,Eu,EL$,7VrELmw AA,II,JI,IU,IE,IAI,IO,IAU,7Sw kU",
    "SVdA,CVIz~,CNUK&,CSuDDA,7DkDA,8%Bi DkDA,7W+DmEPdAT+,7SECsl MdK,7D%BimECsl MdK,7ABBvVIAslmw,7",
    "SwmUKUN,=11280,0MULTkI iTTj A,FI,FU,FE,FKA,Gu,FGA,=11288,Gu,=1128A,FCA,Gu,FJA,GJA,=1128F,FNY",
    "A,FT&,Hu,FDDA,HDA,Hu,FNNA,F&,Gu,FDA,Gu,FNA,FPA,Gu,FBA,=1129F,Gu,F~,FYA,Fz,F$,FVA,FSA,Fu,FRz,",
    "Gu,8SECsl MdK,=112B0,0KHUDAWA< iTTj A,IA,HI,II,HU,IU,HE,HAI,HO,HAU,HKA,Iu,HGA,IGA,Iu,HNGA,HC",
    "A,Iu,HJA,IJA,Iu,HNYA,HT&,Ju,HDDA,JDA,HRz,HDDu,HNNA,H&,Iu,HDA,Iu,HNA,HPA,Iu,HBA,IBA,Iu,H~,HYA",
    ",Hz,H$,HVA,HSu,IA,Hu,ASw kUSVdA,AVrELmw AA,LI,MI,LU,MU,LE,LAI,LO,LAU,ASw NUK&,FVIz~,=112F0,A",
    "<GIyZjO,GlE,GTWO,HHvE,GF%R,HIVE,G:X,HEVq,GEf,GNhE,=11300,0GRkTumw COMBhhG kUSVdAn,EkDzBhDU,D",
    "kUSVdA,DVISdGA,=11305,8iTTj A,GA,FI,GI,FU,GU,FVOCeIC R,NL,=1130F,FEE,FAI,=11313,FOO,FAU,FKA,",
    "Gu,FGA,Gu,FNGA,FCA,Gu,FJA,Gu,FNYA,FT&,Hu,FDDA,Hu,FNNA,F&,Gu,FDA,Gu,FNA,=1132A,FPA,Gu,FBA,Gu,",
    "F~,FYA,Fz,=11332,F$,G$,=11335,FVA,FSu,GSA,GA,Fu,=1133B,0COMBhhG BhDU BELr,0GRkTumw NUK&,DAVA",
    "Gzu,8VrELmw AA,JI,KI,JU,KU,JVOCeIC R,SR,=11347,JEE,JAI,=1134B,JOO,JAU,8Sw VIz~,=11350,8OM,=1",
    "1357,8AU iNGx MdK,=1135D,8Sw PLU&,8iTTj VE<C kUSVdA,LD%Bi kUSVdA,GOCeIC RR,NLL,8VrELmw VOCeI",
    "C L,SL,=11366,0COMBhhG GRkTu <GIyZjO,OlE,OTWO,PHvE,OF%R,PIVE,O:X,=11370,IiTTj A,PKA,PNA,PVI,",
    "PPA,=11400,0NEWA iTTj A,DA,CI,DI,CU,DU,CVOCeIC R,LR,KL,LL,CE,CAI,CO,CAU,CKA,Du,CGA,Du,CNGA,E",
    "u,CCA,Du,CJA,Du,CNYA,Eu,CT&,Eu,CDDA,Eu,CNNA,C&,Du,CDA,Du,CNA,Du,CPA,Du,CBA,Du,C~,Du,CYA,Cz,D",
    "u,C$,Du,CWA,CSu,DSA,DA,Cu,5VrELmw AA,GI,HI,GU,HU,GVOCeIC R,PR,OL,PL,GE,GAI,GO,GAU,5Sw VIz~,A",
    "CkDzBhDU,AkUSVdA,AVISdGA,ANUK&,AAVAGzu,AFhe kUSVdA,5OM,5:DD|,5DkDA,6%Bi DkDA,5COM~,5GAP FILi",
    "R,5ABBvVIAslmw,5<GIyZjO,BlE,BTWO,CHvE,BF%R,CIVE,B:X,CEVq,BEf,BNhE,6%Bi COM~,5P$CEHOLDj MdK,=",
    "1145D,5hSjslmw,5SkD| MdK,5iTTj VE<C kUSVdA,5Sw JIHVAMULIYA,AUPADHMkIYA,=11480,0sRHU& kJI,8iT",
    "Tj A,GA,FI,GI,FU,GU,FVOCeIC R,OR,NL,OL,FE,FAI,FO,FAU,FKA,Gu,FGA,Gu,FNGA,FCA,Gu,FJA,Gu,FNYA,F",
    "T&,Hu,FDDA,Hu,FNNA,F&,Gu,FDA,Gu,FNA,FPA,Gu,FBA,Gu,F~,FYA,Fz,F$,FVA,FSu,GSA,GA,Fu,8VrELmw AA,",
    "JI,KI,JU,KU,JVOCeIC R,SR,RL,SL,JE,JSH+yE,JAI,JO,JSH+yO,JAU,8Sw CkDzBhDU,DkUSVdA,DVISdGA,Fz~,",
    "DNUK&,DAVAGzu,8GVkG,8ABBvVIAslmw,8OM,=114D0,8<GIyZjO,ElE,ETWO,FHvE,EF%R,FIVE,E:X,FEVq,EEf,EN",
    "hE,=11580,0:DDuM iTTj A,GA,FI,GI,FU,GU,FVOCeIC R,OR,NL,OL,FE,FAI,FO,FAU,FKA,Gu,FGA,Gu,FNGA,F",
    "CA,Gu,FJA,Gu,FNYA,FT&,Hu,FDDA,Hu,FNNA,F&,Gu,FDA,Gu,FNA,FPA,Gu,FBA,Gu,F~,FYA,Fz,F$,FVA,FSu,GS",
    "A,GA,Fu,8VrELmw AA,JI,KI,JU,KU,JVOCeIC R,SR,=115B8,JE,JAI,JO,JAU,8Sw CkDzBhDU,DkUSVdA,DVISdG",
    "A,Fz~,DNUK&,D:DDuM,8DkDA,9%Bi DkDA,8SEPdAT+ DOT,IBd,8vPEssl MdK-1,O2,O3,8q.OF TEXyMdK,8SECsl",
    " MdKbTRIDqyk.U-SuPo+NAMqTS,cDOTToCvSCqTS,QzY!k.DOTToCvSCqTS,gD%Bi CvSCqTS,gTRIPi CvSCqTS,LD%",
    "Bi RhG,WbzYS,LWIx D%Bi CvSCqTS,QTRIPi CvSCqTS,QQUADRUPi CvSCqTS,QSEPTUPi CvSCqTS,Q;i!k.zYS,c",
    "TWO qCLOSUvS,cF%R qCLOSUvS,8iTTj xvE-;i eTjNATtI,GWO-;i eTjNATtI,bI,FeTjNATtU,8VrELmw eTjNAT",
    "tU,UU,=11600,0MO< iTTj A,DA,CI,DI,CU,DU,CVOCeIC R,LR,KL,LL,CE,CAI,CO,CAU,CKA,Du,CGA,Du,CNGA,",
    "CCA,Du,CJA,Du,CNYA,CT&,Eu,CDDA,Eu,CNNA,C&,Du,CDA,Du,CNA,CPA,Du,CBA,Du,C~,CYA,Cz,C$,CVA,CSu,D",
    "SA,DA,Cu,CL$,5VrELmw AA,GI,HI,GU,HU,GVOCeIC R,PR,OL,PL,GE,GAI,GO,GAU,5Sw kUSVdA,AVISdGA,Cz~,",
    "AdDuCkDz,5DkDA,6%Bi DkDA,5ABBvVIAslmw,5Sw HUVA,=11650,5<GIyZjO,BlE,BTWO,CHvE,BF%R,CIVE,B:X,C",
    "EVq,BEf,BNhE,=11660,2NGOLIk BIRGAb+NAMqT,A^&ToBIRGA,AD%Bi BIRGAb+NAMqT,ATRIPi BIRGAb+NAMqT,A",
    "BIRGAbD%Bi +NAMqT,A^&ToBIRGAb+NAMqT,TD%Bi +NAMqT,AhVjToBIRGA,ObD%Bi +NAMqT,ASWIRL BIRGA,Lb+N",
    "AMqT,RD%Bi +NAMqT,ATURNEDmWIRL BIRGAbD%Bi +NAMqT,=11680,0&KRI iTTj A,EA,DI,EI,DU,EU,DE,DAI,D",
    "O,DAU,DKA,Eu,DGA,Eu,DNGA,DCA,Eu,DJA,Eu,DNYA,DT&,Fu,DDDA,Fu,DNNA,D&,Eu,DDA,Eu,DNA,DPA,Eu,DBA,",
    "Eu,D~,DYA,Dz,D$,DVA,DSu,EA,Du,DRz,6Sw kUSVdA,BVISdGA,6VrELmw AA,HI,II,HU,IU,HE,HAI,HO,HAU,6S",
    "w VIz~,BNUK&,6iTTj dCuIC Ku,6ABBvVIAslmw,=116C0,6<GIyZjO,ClE,CTWO,DHvE,CF%R,DIVE,C:X,DEVq,CE",
    "f,CNhE,=11700,0AHOM iTTj KA,Du,CNGA,DA,C&,CeTjNATt&,CPA,Du,CBA,C~,CJA,CCu,CTu,Cz,C$,CSA,CNYA",
    ",Cu,CA,CDA,Du,CGA,CeTjNATtGA,CGu,CBu,CJu,CeTjNATtBA,=1171D,5ClSlkTmw _<e $,Rz,RLIGAThG z,5Vr",
    "ELmw A,HA,GI,HI,GU,HU,GE,GAW,GO,GAI,HM,5Sw KILiR,=11730,5<GIyZjO,BlE,BTWO,CHvE,BF%R,CIVE,B:X",
    ",CEVq,BEf,BNhE,5NUMBj Tq,DWqTY,5SwmMeLmECsl,BECsl,ARU$I,6> VI,5iTTj CA,CT&,Eu,CDDA,Eu,CNNA,C",
    "L$,=11800,0DOGz iTTj A,EA,DI,EI,DU,EU,DE,DAI,DO,DAU,DKA,Eu,DGA,Eu,DNGA,DCA,Eu,DJA,Eu,DNYA,DT",
    "&,Fu,DDDA,Fu,DNNA,D&,Eu,DDA,Eu,DNA,DPA,Eu,DBA,Eu,D~,DYA,Dz,D$,DVA,DSu,ESA,EA,Du,DRz,6VrELmw ",
    "AA,HI,II,HU,IU,HVOCeIC R,QR,HE,HAI,HO,HAU,6Sw kUSVdA,BVISdGA,Dz~,BNUK&,6ABBvVIAslmw,=118A0,0",
    "WdkG CIs caNGAA,RA,RWI,RYU,SA,SO,RII,RUU,RE,RO,RkG,RGA,RKO,RqY,RYUJ,RUC,RqN,RODD,RTTE,RNUNG,",
    "RDA,RAT,SM,RBU,RPU,R|YO,SOLO,TRR,Sd,RSSUU,SII,RVIYO,C?eaNGAA,PA,PWI,PYU,QA,QO,PII,PUU,PE,PO,",
    "PkG,PGA,PKO,PqY,PYUJ,PUC,PqN,PODD,PTTE,PNUNG,PDA,PAT,QM,PBU,PPU,P|YO,QOLO,RRR,Qd,PSSUU,QII,P",
    "VIYO,C<GIyZjO,IlE,ITWO,JHvE,IF%R,JIVE,I:X,JEVq,IEf,INhE,CNUMBj Tq,KWqTY,K|RTY,JF+TY,KIFTY,J:",
    "XTY,KEVqTY,JEfY,JNhETY,=118FF,COM,0<VE!AKURU iTTj A,KA,JI,KI,JU,KU,JE,=11909,JO,=1190C,JKA,K",
    "u,JGA,Ku,JNGA,JCA,Ku,JJA,=11915,JNYA,JT&,=11918,JDDA,Lu,JNNA,J&,Ku,JDA,Ku,JNA,JPA,Ku,JBA,Ku,",
    "J~,JYA,KYA,Jz,J$,JVA,JSu,KSA,KA,Ju,JL$,JZA,CVrELmw AA,NI,OI,NU,OU,NE,=11937,NAI,NO,=1193B,CS",
    "w kUSVdA,HCkDzBhDU,HHek&,CVIz~,CPvFIXoNASemw,C_<e YA,ChIse z,C_<e z,CSw NUK&,CD%Bi DkDA,CGAP",
    " FILiR,Cq.OF TEXyMdK,=11950,C<GIyZjO,IlE,ITWO,JHvE,IF%R,JIVE,I:X,JEVq,IEf,INhE,=119A0,0NkDhA",
    "GdI iTTj A,KA,JI,KI,JU,KU,JVOCeIC R,SR,=119AA,JE,JAI,JO,JAU,JKA,Ku,JGA,Ku,JNGA,JCA,Ku,JJA,Ku",
    ",JNYA,JT&,Lu,JDDA,Lu,JNNA,J&,Ku,JDA,Ku,JNA,JPA,Ku,JBA,Ku,J~,JYA,Jz,J$,JVA,JSu,KSA,KA,Ju,JL$,",
    "JRz,CVrELmw AA,NI,OI,NU,OU,NVOCeIC R,WR,=119DA,NE,NAI,NO,NAU,CSw kUSVdA,HVISdGA,Jz~,HAVAGzu,",
    "H:DDuM,C*ADST^KE,CVrELmw PRISHTu~Tz E,=11A00,0ZkABAZdmQUdtiTTj A,HVrELmw I,SUE,T,SE,SOE,T,SA",
    "I,TU,SvVjSoI,NiNGx MdK,HiTTj KA,Pu,OGA,Pu,ONGA,OCA,Pu,OJA,ONYA,OT&,Qu,ODDA,Qu,ONNA,O&,Pu,ODA",
    ",Pu,ONA,OPA,Pu,OBA,Pu,O~,OTSA,Qu,ODZA,Qu,OZu,PA,O-A,OYA,Oz,O$,OVA,OSu,PSA,PA,Ou,OKSSA,HFhe C",
    "lSlkyMdK,HSw VIz~,MCkDzBhDU,Xb+NAMqT,Sb+NAMqT,MkUSVdA,MVISdGA,HCLUSTj-hIsAaz,PFhAaYA,cz,c$,c",
    "VA,HhIse *A.MdK,HCLOShG *A.MdK,HMdK TS*G,MSuD,MD%BimuD,MLlG TS*G,HhIse D%Bi-Lho*A.MdK,HCLOSh",
    "G D%Bi-Lho*A.MdK,HSUBJOhj,=11A50,0SOYOMBO iTTj A,8VrELmw I,JUE,K,JE,JO,KE,JAI,KU,JVOCeIC R,R",
    "L,EiNGx MdK,8iTTj KA,Gu,FGA,Gu,FNGA,FCA,Gu,FJA,Gu,FNYA,FT&,Hu,FDDA,Hu,FNNA,F&,Gu,FDA,Gu,FNA,",
    "FPA,Gu,FBA,Gu,F~,FTSA,Hu,FDZA,FZu,GA,F-A,FYA,Fz,F$,FVA,FSu,GSA,GA,Fu,FKSSA,8Sw JIHVAMULIYA,D",
    "UPADHMkIYA,8CLUSTj-hIsAaz,V$,VSu,WA,8Fhe ClSlkTmw G,TK,TNG,TD,TN,TB,TM,TR,TL,TSH,U,T-A,8Sw k",
    "USVdA,DVISdGA,8GEMhAsl MdK,8SUBJOhj,8MdK TS*G,DSuD,DD%BimuD,DPLU&,8*A.MdKbMOl kDmUN k.TRIPi ",
    "F$_,eF$_,Z,8TjMhe MdK-1,M2,=11AB0,0CkA<kmYL$BIC!NATsLIK |,UI,TO,UO,TA,UA,SSHRI,WI,VO,WO,VA,W",
    "A,JSPE,LI,LO,LA,0PAU Ch uU iTTj PA,JKA,J$,J~,JDA,JZA,JVA,JNGA,Ju,JGA,JKu,JSA,JBA,JCA,J&,Ku,J",
    "NA,JPu,Jz,JFA,JCu,JA,JE,JI,JO,JU,KA,JIA,JFhe P,PK,PT,PM,PN,PL,PW,PNG,PY,CRIShG TltLlG,N,CSkD",
    "| GLOTTemTOP,CRIShG TltLlG Fhe,OFhe,CSkD| GLOTTemTOP Fhe,JTltLlG,N,N LlG Fhe,OFhe,CMID-iVEL ",
    "TlE,CGLOTTemTOP VdIkT,CMID-iVEL TltLlG Fhe,RFhe,CLr-FeLhG TltLlG,S,CGLOTTemTOP,CLr-FeLhG Tlt",
    "LlG Fhe,TFhe,CGLOTTemTOP Fhe,=11C00,0BuIKSUKI iTTj A,IA,HI,II,HU,IU,HVOCeIC R,QR,PL,=11C0A,H",
    "E,HAI,HO,HAU,HKA,Iu,HGA,Iu,HNGA,HCA,Iu,HJA,Iu,HNYA,HT&,Ju,HDDA,Ju,HNNA,H&,Iu,HDA,Iu,HNA,HPA,",
    "Iu,HBA,Iu,H~,HYA,Hz,H$,HVA,HSu,ISA,IA,Hu,AVrELmw AA,LI,MI,LU,MU,LVOCeIC R,UR,TL,=11C38,LE,LA",
    "I,LO,LAU,ASw CkDzBhDU,FkUSVdA,FVISdGA,Hz~,FAVAGzu,ADkDA,B%Bi DkDA,AW+DmEPdAT+,AGAP FILiR-1,L",
    "2,=11C50,A<GIyZjO,GlE,GTWO,HHvE,GF%R,HIVE,G:X,HEVq,GEf,GNhE,ANUMBj lE,HTWO,IHvE,HF%R,IIVE,H:",
    "X,IEVq,HEf,HNhE,HTq,IWqTY,I|RTY,HF+TY,IIFTY,H:XTY,IEVqTY,HEfY,HNhETY,AHUNDvD!UNIyMdK,=11C70,",
    "0MdCHq *A.MdK,8MdKmuD,8iTTj KA,Gu,FGA,FNGA,FCA,Gu,FJA,FNYA,F&,Gu,FDA,FNA,FPA,Gu,FBA,F~,FTSA,",
    "Hu,FDZA,FWA,FZu,GA,F-A,FYA,Fz,F$,FSu,GA,Fu,FA,=11C92,8SUBJOhoiTTj KA,Qu,PGA,PNGA,PCA,Qu,PJA,",
    "PNYA,P&,Qu,PDA,PNA,PPA,Qu,PBA,P~,PTSA,Ru,PDZA,PWA,PZu,QA,=11CA9,PYA,Pz,P$,PSu,QA,Pu,PA,8VrEL",
    "mw AA,JI,JU,JE,JO,8Sw kUSVdA,DCkDzBhDU,=11D00,2SdAM Gl< iTTj A,MA,LI,MI,LU,MU,LE,=11D08,LAI,",
    "LO,=11D0B,LAU,LKA,Mu,LGA,Mu,LNGA,LCA,Mu,LJA,Mu,LNYA,LT&,Nu,LDDA,Nu,LNNA,L&,Mu,LDA,Mu,LNA,LPA",
    ",Mu,LBA,Mu,L~,LYA,Lz,L$,LVA,LSu,MSA,MA,Lu,LL$,LKSSA,LJNYA,LTz,EVrELmw AA,PI,QI,PU,QU,PVOCeIC",
    " R,=11D3A,PE,=11D3C,PAI,PO,=11D3F,PAU,ESw kUSVdA,JVISdGA,JNUK&,JCkDz,JHek&,EVIz~,EvPu,FA-KdA",
    ",=11D50,E<GIyZjO,KlE,KTWO,LHvE,KF%R,LIVE,K:X,LEVq,KEf,KNhE,=11D60,0GUNJeA Gl< iTTj A,MA,LI,M",
    "I,LU,MU,=11D67,LEE,LAI,=11D6A,LOO,LAU,LYA,LVA,LBA,Mu,L~,LKA,Mu,L&,Mu,L$,LGA,Mu,LDA,Mu,LNA,LC",
    "A,Mu,LT&,Nu,LL$,LJA,Mu,LDDA,Nu,LNGA,LPA,Mu,Lu,Lz,LSA,EVrELmw AA,PI,QI,PU,QU,=11D90,PEE,PAI,=",
    "11D93,POO,PAU,ESw kUSVdA,JVISdGA,EVIz~,EOM,=11DA0,E<GIyZjO,KlE,KTWO,LHvE,KF%R,LIVE,K:X,LEVq,",
    "KEf,KNhE,=11EE0,0~KASd iTTj KA,FGA,FNGA,FPA,FBA,F~,F&,FDA,FNA,FCA,FJA,FNYA,FYA,Fz,F$,FVA,FSA",
    ",FA,8kGKA,8VrELmw I,JU,JE,JO,8PAS:MBkG,8q.OFmECsl,=11FB0,0LISU iTTj Yu,=11FC0,0&MIL FzCsl lt",
    "xvE-HUNDvD-kD-TWqsEx,JlE-HUNDvD-kD-:XsEx,JEfIEx,J:XTY-F%Rx,JF+sEx,JxIRTY-SEClD,FxvtEfIExS,L:",
    "XTY-F%RxS,FltTWqsEx,J:XTEqx-1,T2,JTqx,JEfH,FxvtTWqsExS,L:XTEqxS,FltFIFx,JQUdTj,JHeF-1,O2,Fxv",
    "tQUdTjS,FDrNSCehG FACT+ KIIZH,6Sw NEL,BCEVITU,BAAZuAKKU,BUZuKKU,BMUUVUZuKKU,BKURUNI,BPATuKKU",
    ",BMUKKURUNI,BKAACU,BPkAM,Cl,BVdAAKk,BPAdAM,BKUZ|,BVELI,6WEyCULsVAslmw,6DRY CULsVAslmw,6LkDmw",
    ",6SeyPkmw,6Tz<sle Cv<Tmw,INUMBjmw,6CURRqTmw,6k.ODDmw,6SPqTmw,6TOTemw,6h POSSES:lmw,6STdThG F",
    "^Mmw,7w MUxeIYA,BVAKAIYdAA,=11FFF,6PUNCTUAsl q.OF TEXT,0CUNEIF+Mmw A,G s_!A,NBAD,NGk2 TqU,Nu",
    ",NIGI,N$Gd GUNU,NMUSH,NSAG,G2,GB,H s_!ASH2,ODUN3 GUNU,OGe,QN2 TqU,Ou,OIGI GUNU,PMh,O$GAB,OS*",
    "SH,OU PLU!U PLU!U,IGUNU,H2,I s_!BeAG,PGk2 TqU,PMtPLU!q,PSu3,P&K4,GD,GK,H s_!jh2,OS|& PLU!GIS",
    "H,GL,H s_!e,O<M2,OGISH,Ou,OKAD3,PI,OS*,OUSH,Hk,HEPH,GMd,J s_Sm*,GN,H OVj k,Ixvts_S,IPLU!NAGA",
    " OPPOShG k PLU!NAGA,SSQUdED,HS*,GPh,GzD,J s_!KUR,HKAB,GSe2,HH,I ZIDA TqU,JKABA TqU,JOVj ASH ",
    "TUG2 OVj TUG2 TUG2 OVj TUG2 PAP,SOVj ASH,a C^SShG ASH OVj ASH OVj ASH,I2,IGAB,FBA,HD,HG3,HHd",
    "2,HL,I OVj Be,IAG,HR,IA2,GI,H s_!A,OGd,OIGI GUNU,GU,H OVj BU AB,QUN,IC^SShG BU,HLUG,K OVj BU",
    "LUG,HR,I2,FDA,HG,I KI:M5 s_!A PLU!~SH,XMd,WBeAG,XI,WGA,Y PLU!~SH,XI,YR2,XUD,Wu,WIR,Y PLU!LU,",
    "WKAK,W$,XU,Y PLU!~SH2,YM,WNE,WPAP PLU!PAP,W:,W&K4,WU2 PLU!GIR2,XSH,HM,HR,IA3,J4,GI,HB,HM,I s",
    "_Sm*,I2,HN,I KASKe U GUNU <SH,HSH,GU,H OVj DU,IGUNU,IS*S|G,HB,I s_!ESH2,I2,HG,IUD,HH,HN,I3,J",
    " GUNU,O GUNU,I4,HR2,FE,G s_!PAP,HOVj tNUN OVj NUN,G2,H s_!A PLU!u PLU!DA,OGd,OMI,OSe,P*,OU,G",
    "Dh,GGIR,GL,GN,H s_!Gk2,S TqU,O_,IC^SShG q,IOPPOShG q,ISQUdED,GRq,Hh2,GSH2,GZq,J s_!A,R PLU!L",
    "e,a s_!Le,RN,QBAD,QDUN3 GUNU,Z GUNU,Qu,S GUNU,QIGI GUNU,QKASKe,WmQUdED,RU3,Q$,SL s_!Le,RI,RU",
    ",QU2,RD,FGA,H GUNU,H2,I s_!A PLU!DA PLU!u,Wu,WIGI,QB2 TqU PLU!&B,QN,QSH,S2 PLU!Ge,PBAD,RR PL",
    "U!z,QUR,S PLU!z,PDA,QI,RM s_Sm*,QUB,PEL,R PLU!$,QN,R s_!Gk2 TqU,PGk2 TqU,RR,QI,R4,S PLU!A,RR",
    "2 PLUSmU,Pu PLU!LU PLU!ESH2,RL,S PLU!$,QI PLU!LI,QUB2,PIGI GUNU,QSH PLU!HU PLU!ASH,PKAK,RSKe",
    ",QID,S PLU!Le,QU3 PLU!k,P$,PMtPLU!q,QI,PNUN,S OVj NUN,PPA,PSe,RR,Q*,S PLU!TUR,RID,QUM,P&K4,P",
    "U,QD,R PLU!DU,JOVj GA2,HBA,J C^SShG GABA,HD,I OVj GA.Gd OVj Gd,HL,I GA.OVj GA.Gd OVj Gd,IAM,",
    "HM,HN,I2,J TqU,KOVj Gk2,KC^SShG Gk2,HR,I3,HSHk,GESHTh,M s_!KUR,GI,H s_!E,OU,IC^SShG GI,H4,I ",
    "OVj GI4,JC^SShG GI4,H<M,HR2,J GUNU,I3,J s_!A PLU!IGI,QGk2 TqU,QIGI,QLU PLU!IGI,QPA,HSe,IH,J ",
    "C^SShG GISH,Ks_!BAD,Q&K4,LqU,GU,H C^SShG GU,H2,I s_!KAK,S s_!IGI GUNU,PNUN,PSe PLU!TUG2,JGUN",
    "U,HD,I s_!A PLU!KUR,PKUR,JOVj GU.LUGe,HL,HM,I s_Sm*,HR,I7,IUN,JSH,Fu,H TqU,IGUNU,HL,GI,H s_!",
    "ASH,R2,OBAD,O<SH,OGAD,OKh,ONUN,OS*,OU,GU,HB2,J s_!k,QHe,QKASKe,QLISH,QUD,HL2,FI,G A,GB,G<M,J",
    " OVj I<M BUR,USQUdED,GG,HI,I <B,JRI,JOVj IGIm|R OVjm|R U.OVj UD,JGUNU,GL,H s_!Gk2 TqU,H2,GM,",
    "H s_!&K4,IC^SShG IM,IOPPOShG IM,ISQUdED,Hh,GN,GR,GSH,FKA,H s_!A,PD,Q PLU!KU3,PSH2,OBAD,Q$G,Q",
    "R,PI,Ojh2,PSH2,OGA,QL,QN2 TqU,QR,R PLUSmu3 PLU!A,PI,QR2,QSH PLUSmd,TC^SShG GISH,PU,QR7,OIGI,",
    "PM,OKAK,PI,QD,OLI,PU,O_,Q PLU!DU,WGI,WTE,PI,Q PLU!NUNUZ,ONE,PUN,OPI,ORU,OSA,QR,Pu,QE,QID,QU,",
    "PIG,PUHUR,OTd,OU,P2,PD,PMUM s_!PA,PSH,OZI,H2,I C^SShG KA2,HB,HD2,I3,I4,I5,J OVj KAD5,HK,I s_",
    "!IGI GUNU,HL,I s_!BAD,JC^SShG Ke,HM2,I4,HSKe,L $GAB s_!U OVj $GAB s_!U,MOVj KASKe $GAB s_!U ",
    "OVj $GAB s_!U,GESH2,GI,H s_!BAD,OU,PD,HD,HN,HSe,IH,IIM5,L OVj KI:M5,GU,H OVj | s_!ASH2 KU OV",
    "j | s_!ASH2,H3,H4,I VdIkTg,H7,HL,I GUNU,HN,HR,I OPPOShG KUR,HSHU2,GWU318,F$,HGAB,K s_!A,S PL",
    "U!DA PLU!u,YGd,YLe,SL,SN,SSH ZIDA TqU,RBAD,SI,RDd,Rq,RGA,TR,SUD,U PLU!GUD,Ru,TL,SI s_!NUN,RI",
    "GI GUNU,SM,T PLU!u,ZLU,RKI,TN,SU3,TL,U PLU!| PLU!A,R$GAB,SISH,SU,TL,R_,T PLU!q,SUSH,RNE,RSHt",
    "PLUSmUM,TI& PLU!GISH PLU!jh2,hTqU,TU2,V PLUSmHU2,SUM,R&G,TK4,StPLU!A PLUSmU PLU!NA,RU,S PLU!",
    "A,YU PLU!U,S2 PLU!ASH,SD,SSH,LSQUdED,JR,K s_Sm*,U PLUSmUM,LGUNU,P OVj $Gd GUNUm*,HHSHU,HL,I ",
    "s_!Le,HM,I s_!KUR,S PLU!RU,GI,HL,HMMU2,HSH,GU,H s_!BAD,H2,I s_!e,PBAD,PESH2,T TqU,PGk2 TqU,P",
    "| s_!BAD,PIM,PKAD2,S3,T PLU!ASH,QI,P$ PLU!ASH,RGAB,PMtPLU!q,PNE,QU,P: PLU!ASH,RK2 PLU!BU,PTU",
    "G2,KqU,JC^SShG LU2,JOPPOShG LU2,JSQUdED,K*S|G,H3,HGe,K OVj LUGe,MPPOShG LUGe,LS*S|G,HH,HL,HM",
    ",I OVj LUM,R Gd OVj Gd,F~,H s_!&K4,IGUNU,H2,HH,HR,HSH,J2,GE,HS,GI,HN,GU,H OVj MU,HG,I GUNU,H",
    "NSUB,HRGU2,HSH,J s_!A,QKUR,QZA,KOVj MUSH,T s_!A PLU!NA,KC^SShG MUSH,J3,K s_!A,S PLU!<,R<,LGU",
    "NU,FNA,H2,HGA,J hVjTED,Ks_SmHU TqU,KOPPOShG NAGA,JR,HM NUsLLU,I,I2,GE,H s_!A,OUD,IS*S|G,GI,H",
    " s_!E,H2,HM,I s_!Gk2 TqU,RR PLU!Gk2 TqU,HNDA2,L s_!k,TSH,V PLU!ASH,SGUD,SMtPLU!Gk2 TqU,SNE,T",
    "UN,SS*,V PLU!A k,cSH,e PLU!ASH,SU2 PLU!ASH,TSH,HSAG,GU,H11,HN,I $Gd s_!Gd,V~SH,VSe,Y OVj NUN",
    " $Gd s_Sme,VUSH,JTqU,JOVj NUN,JC^SShG NUN,V $Gd OVj $Gd,IUZ,K AB2 s_!ASHGAB,VBI,VDUG,VGUD,VI",
    "GI GUNU,VKAD3,V$,VNE,V:$3,VU2,LKI:M5 s_!BI,a U,FPA,HD,HN,HP,GESH2,GI,H s_!A,PB,OBI,PU,OE,OI,",
    "PB,OU,P2,IC^SShG PI,HRIG,K s_!Ke,RUD,RZA,LOPPOShG PIRIG,Fz,HB,GI,GU,FSA,HG NUsLLU,I,I s_!A,P",
    "DU,RB,Pu,PKAK,QUR,PLUM,PMI,PNUN,PSe,Q|D,P&B,PU2,QB,QM,QR,QSH,JOVjmAG,JGUNU,HL,I $GAB s_!ASH2",
    ",HNGA2,HR,Gu,I3,J s_!A,QBAD,QGISH,QNE,QSHU2,QTUR,QU,R PLU!A,I6,IB6,IR2,HE,I HU,JOVjmHtGA.OVj",
    " GA.Gd OVj Gd,S&B OVj &B Gd OVj Gd,IG9,IN,ISH,K2,K$M,HID,J s_!A,QIM,IM,J s_!A,QBe,RULUG,QDh,",
    "QGd,QIGI,T GUNU,QKUSHU2,QLUL,QMUG,QSe,INIG,IR,J TqU,KOVjm|R BUR OVj BUR,I&,HU,I OVj hVjTEDmH",
    "U,I2,IBUR,GI,H GUNU,HG,I4,J OVjmIG4mHU2,HK2,H$3,GU,H OVjmU,HD,I2,HHUR,HM,IASH,HR,I9,F&,H AST",
    "jISK,Is_!|,OMI,IGUNU,HB,I OVj &B NI OVj NI <SH OVj <SH,JSQUdED,HG,I s_!BI,PGUD,PS*,RU,PTUG2,",
    "PUD,HK4,HR,GE,H GUNU,GI,H TqU,HL,HR,I s_!&K4,JOVj sR,R GA.OVj GA.Gd OVj Gd,GU,HG2,HK,HM,HR,I",
    " OVj TUR ZA OVj ZA,FU,G GUD,HU U,HOVj U PA OVj PA Gd OVj Gd,OSUR OVjmUR,OU vVjSoOVj U vVjSED",
    ",G2,GB,GD,H KUSHU2,Is_!BAD,OMI,OU PLU!U PLU!U,d GUNU,IGUNU,IS*S|G,P s_!BAD,HUG,GM,H s_!$GAB,",
    "OMtPLU!DA,OSu3,OU,HBh,HUM,J s_!KASKe,QPA,GN,H GUNU,GR,H C^SShG UR,IS*S|G,H2,I s_!A PLU!u,WNA",
    ",QL,Pu,PNUN,PU2,R PLU!ASH,XBI,H4,HI,I3,HU,I s_!A,QSHGAB,PBd,PDUN,PGA,RL,RN2 TqU,RR,QU,Pu,PIG",
    "I,QM,QSH,PKI,PLUM,PMh,PPA,PS*,QIG4,PTU,PU PLU!GUD,QD,QRUDA,IDA,K s_!U,GSH,I s_!A,PKU,RR,P&K4",
    ",IX,I2,IUMX,GTUKI,GZ3,I s_!KASKe,HU,FZA,H TqU,ISQUdos_!KUR,HG,HMX,GE2,GI,H OVj ZI,H3,HB,I KA",
    "BA TqU,HG,HZ2,GU,H5,I s_!A,HBUR,HM,FKAP E$MITE,FAB s_!NUN,H2 s_!A,GMd s_!KUG,FDAG KI:M5 s_!U",
    "2 PLU!~SH,I3,GISH PLUSmHU,GUB s_Sm*,FEZq s_!GUD,QS*,FGA2 s_!k PLU!KAK PLU!A,QSH2,GE22,GIG,FH",
    "USH,FKA s_!kS*,PSH3,OGISH,PUD,O| s_!ASH2,OLUM,OPA,OSHUL,OTU,OUR2,F$GAB s_!GI,GU2m*S|G s_!BAD",
    ",Js_!ESH2 PLU!Le,PSHU,F_SH,GUSH3 s_!ZA,FNA4,Gh,I9,IDA2 s_!Be,SGI,GU11 ^&ToNhETY DEGvES,FPESH",
    "2 ASTjISK,GIR2,FSAG s_!IGI GUNU,Fs2,FUM s_!_,G U,=12400,ANUMjICmw TWO ASH,OHvtASH,NF%R ASH,O",
    "IVtASH,N:X ASH,OEVq ASH,NEf ASH,NNhtASH,Nxvt<SH,NF%R <SH,OIVt<SH,N:X <SH,OEVq <SH,NEf <SH,NN",
    "ht<SH,NF%R U,OIVtU,N:X U,OEVq U,NEf U,NNhtU,NltGESH2,NTWO GESH2,OHvtGESH2,NF%R GESH2,OIVtGES",
    "H2,N:X GESH2,OEVq GESH2,NEf GESH2,NNhtGESH2,NltGESHU,NTWO GESHU,OHvtGESHU,NF%R GESHU,OIVtGES",
    "HU,NTWOmHd2,OHvEmHd2,Y VdIkTg,NF%RmHd2,OIVEmHd2,N:XmHd2,OEVqmHd2,NEfmHd2,NNhEmHd2,NlEmHdU,NT",
    "WOmHdU,OHvEmHdU,Y VdIkTg,NF%RmHdU,OIVEmHdU,NSHd2 s_!Ge PLU!<SH,iMh,NltBURU,NTWO BURU,OHvtBUR",
    "U,X VdIkTg,NF%R BURU,OIVtBURU,NxvtVdIkTg ESH16,j21,NF%R VdIkTg LIMMU,k4,k A,lB,N:X VdIkTg AS",
    "H9,OEVq VdIkTg IMh3,k A,lB,NEf VdIkTg USSU,k3,NNhtVdIkTg ILIMMU,l3,l4,l A,NTWO ASH TqU,OHvtA",
    "SH TqU,NF%R ASH TqU,OIVtASH TqU,N:X ASH TqU,NltBk2,NTWO Bk2,OHvtBk2,NF%R Bk2,W VdIkTg,OIVtBk",
    "2,W VdIkTg,NNIGIDAMh,TESH,NltES*3,NTWO ES*3,NltxIR.<SH,NTWO xIRD!<SH,NFIVEmIXx!<SH,NltxIR.Vd",
    "IkTg A,NTWO xIRD!VdIkTg A,NltEfH ASH,RQUdTj ASH,OL.ASSYRIk lEmIXx,eQUdTj,ONtQUdTj GUR,RHeF G",
    "UR,NE$MITtltxIRD,VTWO xIRDS,VF+TY,WIFTY,NF%R U VdIkTg,OIVtU VdIkTg,N:X U VdIkTg,OEVq U VdIkT",
    "g,NEf U VdIkTg,NNhtU VdIkTg,=12470,APUNCTUAslmw OL.ASSYRIk W+.<VIDj,RVjsCe COLl,R<AGle COLl,",
    "aTRICOLl,aQUADCOLl,=12480,ASw AB s_!NUN TqU,OSHU2,G.s_!ESH2,FBA.s_!<SH TqU,HHd2 s_!AB2,SNI,S",
    "ZA,GU OVj BU s_!NA2,FDA s_!&K4,HG s_!KUR,GIM s_!IGI,PU U U,I2 s_!UD,GUG s_!kS*,QSH,S AyiFT,P",
    "Dh,QUN,Pjh2,PGA,QI,RR2 GUNU,RSH,Pu,QI,PIGI GUNU,PKASKe,QUR,RSHU2,V PLU!KASKe,P$K-020,RM,S s_",
    "!KUR,QUH PLU!GISH,P~SH,QES,QI,PNI,PPI,PS*,QI GUNU,FE2 s_!KUR,OPAP,GRh2 X,GSH2 C^SShG ESH2,GZ",
    "qm*S|G s_!ASH,Y|,YIGI GUNU,Y$,aL,Y_,aS,YSU,Ks_SmU,FGA2 s_!BAHd2,P<M GUNU,QUG s_!IGI GUNU,ZKA",
    "SKe,Pjq,PGA,RR PLU!<,YNE,Pu PLU!A,PKUSHU2 PLU!KASKe,P$M,S s_!KUR,QUH,PMUSH,PNE,R PLU!E2,XGI,",
    "PS|M,PZIZ2,HBA ^&ToNhETY DEGvES,GESHTh s_!U,GISH s_!GISH C^SShG GISH,GU2 s_!IGI GUNU,H.PLU!G",
    "ISH s_!&K4,Fu TqU GUNU,GI s_!ASH OVj | s_!ASH,FKA s_!BU,OKA,OU U U,PR,F$GAB s_!ZU OVj ZU,HK-",
    "003,K21,L5,K30,K50,L1,K62,K79 OVj $K-079 GUNU,K80,L1 OVj $K-081,K92,J130,K42,J210,L9,K20,L5,",
    "L8,K38,K65,L6,J343,L7,L8,K83,L4,K90,J441,L9,M s_!GU,TIGI,TPAP PLU!LU3,cPAP PLU!LU3,TU2 PLU!B",
    "A,K50,L7,K70,K83,K90,L2,L3,L5,J550,J608,K17,M s_!ASH,TBAD,TDUN3 GUNU GUNU,TKU3,T$,TTd,UE,TU2",
    ",UD,URUDA,K36,K48,M s_!DUB,TGA,TIGI,W GUNU,TNI,TPAP PLU!PAP PLU!LU3,TS*SH PLU!KI,TUD,URUDA,J",
    "724,K49,GU2 GUNU s_!ASH,Js_!<SH,PHe,PPAP,S PLU!PAP PLU!LU3,P&K4,FMI PLU!ZA7,GUSH OVj MUSH s_",
    "!GA,aKAK,FNhDA2 s_!<M GUNU,SGISH,TUL,S|,SKESH2,S$K-050,S~SH,SPAP PLU!PAP,SU,T PLU!U,TRUDA,FS",
    "AG GUNU s_!u,Js_!q,PSHtAyiFT,P&K4,Gu6 TqU,HtOVjm*,JPLU!HUB2,ONAM2,OSd,HU2 PLU!DUG s_!NI,PE2 ",
    "s_!k,GI s_!&K4,F&K4 PLUSmAG,GUM s_!Gk2 TqU,Pxvt<SH,FUR2 hVjTED,Js_!UD,HU s_!DdA3,P$K-668,QU3",
    ",FZA7,GU OVj ZU PLUSmd,H5 s_!xvt<SH TqU,=12F90,1YP^-MhOkmw CM001,M2,M4,M5,M6,M7,M8,M9,L10,M1",
    ",M2,NB,M3,M5,M7,M9,L21,M3,M4,M5,M6,M7,M8,M9,L30,M3,M4,M5,M6,M7,M8,M9,L40,M1,M4,M6,M7,M9,L50,",
    "M1,M2,M3,M4,M5,M6,M8,M9,L60,M1,M2,M3,M4,M6,M7,M8,M9,L70,M1,M2,M3,M4,M5,NB,M6,M8,M9,L80,M1,M2",
    ",M3,M4,M5,M6,M7,M8,M9,L90,M1,M2,M4,M5,M6,M7,M8,M9,K100,M1,M2,M3,M4,M5,M7,M8,M9,L10,M2,M4,K30",
    "1,M2,=13000,0EGYPsk |jOGLYPH A001,N2,N3,N4,N5,OA,N6,OA,OB,N7,N8,N9,M10,N1,N2,N3,N4,OA,N5,N6,",
    "N7,OA,N8,N9,M20,N1,N2,N3,N4,N5,N6,N7,N8,N9,M30,N1,N2,OA,N3,N4,N5,N6,N7,N8,N9,M40,OA,N1,N2,OA",
    ",N3,OA,N4,N5,OA,N6,N7,N8,N9,M50,N1,N2,N3,N4,N5,N6,N7,N8,N9,M60,N1,N2,N3,N4,N5,N6,N7,N8,N9,M7",
    "0,KB001,N2,N3,N4,N5,OA,N6,N7,N8,N9,KC001,N2,OA,OB,OC,N3,N4,N5,N6,N7,N8,N9,M10,OA,N1,N2,N3,N4",
    ",N5,N6,N7,N8,N9,M20,N1,N2,N3,N4,KD001,N2,N3,N4,N5,N6,N7,N8,OA,N9,M10,N1,N2,N3,N4,N5,N6,N7,N8",
    ",N9,M20,N1,N2,N3,N4,N5,N6,N7,OA,N8,N9,M30,N1,OA,N2,N3,N4,OA,N5,N6,N7,N8,N9,M40,N1,N2,N3,N4,N",
    "5,N6,OA,N7,N8,OA,N9,M50,OA,OB,OC,OD,OE,OF,OG,OH,OI,N1,N2,OA,N3,N4,OA,N5,N6,N7,N8,N9,M60,N1,N",
    "2,N3,N4,N5,N6,N7,OA,OB,OC,OD,OE,OF,OG,OH,KE001,N2,N3,N4,N5,N6,N7,N8,OA,N9,OA,M10,N1,N2,N3,N4",
    ",N5,N6,OA,N7,OA,N8,N9,M20,OA,N1,N2,N3,N4,N5,N6,N7,N8,OA,N9,M30,N1,N2,N3,N4,OA,N6,N7,N8,KF001",
    ",OA,N2,N3,N4,N5,N6,N7,N8,N9,M10,N1,N2,N3,OA,N4,N5,N6,N7,N8,N9,M20,N1,OA,N2,N3,N4,N5,N6,N7,N8",
    ",N9,M30,N1,OA,N2,N3,N4,N5,N6,N7,OA,N8,OA,N9,M40,N1,N2,N3,N4,N5,OA,N6,OA,N7,OA,N8,N9,M50,N1,O",
    "A,OB,OC,N2,N3,KG001,N2,N3,N4,N5,N6,OA,N7,OA,OB,N8,N9,M10,N1,OA,N2,N3,N4,N5,N6,N7,N8,N9,M20,O",
    "A,N1,N2,N3,N4,N5,N6,OA,N7,N8,N9,M30,N1,N2,N3,N4,N5,N6,OA,N7,OA,N8,N9,M40,N1,N2,N3,OA,N4,N5,O",
    "A,N6,N7,N8,N9,M50,N1,N2,N3,N4,KH001,N2,N3,N4,N5,N6,OA,N7,N8,KI001,N2,N3,N4,N5,OA,N6,N7,N8,N9",
    ",OA,M10,OA,N1,OA,N2,N3,N4,N5,KK001,N2,N3,N4,N5,N6,N7,N8,KL001,N2,OA,N3,N4,N5,N6,OA,N7,N8,KM0",
    "01,OA,OB,N2,N3,OA,N4,N5,N6,N7,N8,N9,M10,OA,N1,N2,OA,OB,OC,OD,OE,OF,OG,OH,N3,N4,N5,OA,N6,OA,N",
    "7,OA,N8,N9,M20,N1,N2,OA,N3,N4,OA,N5,N6,N7,N8,OA,N9,M30,N1,OA,N2,N3,OA,OB,N4,N5,N6,N7,N8,N9,M",
    "40,OA,N1,N2,N3,N4,KN001,N2,N3,N4,N5,N6,N7,N8,N9,M10,N1,N2,N3,N4,N5,N6,N7,N8,OA,OB,N9,M20,N1,",
    "N2,N3,N4,N5,OA,N6,N7,N8,N9,M30,N1,N2,N3,OA,N4,OA,N5,OA,N6,N7,OA,N8,N9,M40,N1,N2,LL001,O2,O3,",
    "O4,O5,PA,O6,O7,O8,O9,N10,O1,O2,O3,O4,O5,O6,O7,PA,O8,O9,N20,LU001,O2,O3,O4,O5,O6,O7,O8,O9,N10",
    ",PA,O1,PA,O2,O3,O4,O5,O6,O7,O8,PA,O9,N20,O1,O2,PA,KO001,OA,N2,N3,N4,N5,OA,N6,OA,OB,OC,OD,OE,",
    "OF,N7,N8,N9,M10,OA,OB,OC,N1,N2,N3,N4,N5,N6,N7,N8,N9,OA,M20,OA,N1,N2,N3,N4,OA,N5,OA,N6,N7,N8,",
    "N9,OA,M30,OA,N1,N2,N3,OA,N4,N5,N6,OA,OB,OC,OD,N7,N8,N9,M40,N1,N2,N3,N4,N5,N6,N7,N8,N9,M50,OA",
    ",OB,N1,KP001,OA,N2,N3,OA,N4,N5,N6,N7,N8,N9,M10,N1,KQ001,N2,N3,N4,N5,N6,N7,KR001,N2,OA,N3,OA,",
    "OB,N4,N5,N6,N7,N8,N9,M10,OA,N1,N2,N3,N4,N5,N6,OA,N7,N8,N9,M20,N1,N2,N3,N4,N5,N6,N7,N8,N9,KS0",
    "01,N2,OA,N3,N4,N5,N6,OA,N7,N8,N9,M10,N1,N2,N3,N4,OA,OB,N5,N6,N7,OA,N8,N9,M20,N1,N2,N3,N4,N5,",
    "N6,OA,OB,N7,N8,N9,M30,N1,N2,N3,N4,N5,OA,N6,N7,N8,N9,M40,N1,N2,N3,N4,N5,N6,KT001,N2,N3,OA,N4,",
    "N5,N6,N7,OA,N8,OA,N9,OA,M10,N1,OA,N2,N3,N4,N5,N6,OA,N7,N8,N9,M20,N1,N2,N3,N4,N5,N6,N7,N8,N9,",
    "M30,N1,N2,OA,N3,OA,N4,N5,N6,KU001,N2,N3,N4,N5,N6,OA,OB,N7,N8,N9,M10,N1,N2,N3,N4,N5,N6,N7,N8,",
    "N9,M20,N1,N2,N3,OA,N4,N5,N6,N7,N8,N9,OA,M30,N1,N2,OA,N3,N4,N5,N6,N7,N8,N9,M40,N1,N2,KV001,OA",
    ",OB,OC,OD,OE,OF,OG,OH,OI,N2,OA,N3,N4,N5,N6,N7,OA,OB,N8,N9,M10,N1,OA,OB,OC,N2,OA,OB,N3,N4,N5,",
    "N6,N7,N8,N9,M20,OA,OB,OC,OD,OE,OF,OG,OH,OI,OJ,OK,OL,N1,N2,N3,OA,N4,N5,N6,N7,N8,OA,N9,OA,M30,",
    "OA,N1,OA,N2,N3,OA,N4,N5,N6,N7,OA,N8,N9,M40,OA,KW001,N2,N3,OA,N4,N5,N6,N7,N8,N9,OA,M10,OA,N1,",
    "N2,N3,N4,OA,N5,N6,N7,OA,N8,OA,N9,M20,N1,N2,N3,N4,OA,N5,KX001,N2,N3,N4,OA,OB,N5,N6,OA,N7,N8,O",
    "A,KY001,OA,N2,N3,N4,N5,N6,N7,N8,KZ001,N2,OA,OB,OC,OD,N3,OA,OB,N4,OA,N5,OA,N6,N7,N8,N9,M10,N1",
    ",N2,N3,N4,N5,OA,OB,OC,OD,OE,OF,OG,OH,OI,N6,OA,OB,OC,OD,OE,OF,OG,OH,KAA001,O2,O3,O4,O5,O6,O7,",
    "PA,PB,O8,O9,N10,O1,O2,O3,O4,O5,O6,O7,O8,O9,N20,O1,O2,O3,O4,O5,O6,O7,O8,O9,N30,O1,O2,=13430,K",
    "VjsCe JOhj,KH+IZlTe JOhj,KhSjyAyTOPmTdT,UBOTTOMmTdT,UTOP qD,UBOTTOM qD,KOVj$Y MIDDi,KBEGhmEG",
    "MqT,KqDmEGMqT,=14400,0kATOLIk |jOGLYPH A001,O2,O3,O4,O5,O6,O7,O8,O9,N10,PA,O1,O2,O3,O4,O5,O6",
    ",O7,O8,O9,N20,O1,O2,O3,O4,O5,O6,PA,O7,O8,O9,N30,O1,O2,O3,O4,O5,O6,O7,O8,O9,PA,N40,O1,PA,O2,O",
    "3,O4,O5,PA,O6,PA,PB,O7,O8,O9,N50,O1,O2,O3,O4,O5,O6,O7,O8,O9,N60,O1,O2,O3,O4,O5,O6,PA,PB,PC,O",
    "7,O8,O9,N70,O1,O2,O3,O4,O5,O6,O7,O8,O9,N80,O1,O2,O3,O4,O5,O6,O7,O8,O9,N90,O1,O2,O3,O4,O5,O6,",
    "O7,PA,O8,PA,O9,M100,PA,O1,PA,O2,PA,O3,O4,PA,PB,PC,O5,PA,PB,O6,O7,PA,PB,PC,O8,O9,N10,PA,PB,O1",
    ",O2,O3,O4,O5,PA,O6,O7,O8,O9,N20,O1,O2,O3,O4,O5,PA,O6,O7,O8,O9,N30,O1,O2,O3,O4,O5,PA,O6,O7,O8",
    ",O9,N40,O1,O2,O3,O4,O5,O6,O7,O8,O9,N50,O1,O2,O3,O4,O5,O6,O7,O8,O9,N60,O1,O2,O3,O4,O5,O6,O7,O",
    "8,O9,N70,O1,O2,O3,O4,O5,O6,O7,O8,O9,N80,O1,O2,O3,O4,O5,O6,O7,O8,O9,N90,O1,O2,O3,O4,O5,O6,O7,",
    "O8,O9,M200,O1,O2,PA,PB,O3,O4,O5,O6,O7,PA,O8,O9,PA,N10,O1,O2,O3,O4,O5,PA,O6,PA,O7,O8,O9,N20,O",
    "1,O2,O3,O4,O5,O6,O7,PA,O8,O9,N30,O1,O2,O3,O4,O5,O6,O7,O8,O9,N40,O1,O2,O3,O4,O5,O6,O7,O8,O9,N",
    "50,O1,O2,O3,O4,O5,O6,O7,O8,O9,N60,O1,O2,O3,O4,O5,O6,O7,PA,O8,O9,N70,O1,O2,O3,O4,O5,O6,O7,O8,",
    "O9,N80,O1,O2,O3,O4,O5,O6,O7,O8,O9,PA,N90,O1,O2,O3,O4,PA,O5,O6,O7,O8,O9,PA,M300,O1,O2,O3,O4,O",
    "5,O6,O7,O8,O9,PA,N10,O1,O2,O3,O4,O5,O6,O7,O8,O9,N20,O1,O2,O3,O4,O5,O6,O7,O8,O9,PA,N30,O1,O2A",
    ",PB,PC,O3,O4,O5,O6,PA,PB,PC,O7,O8,O9,N40,O1,O2,O3,O4,O5,O6,O7,O8,O9,N50,O1,O2,O3,O4,O5,O6,O7",
    ",O8,O9,PA,N60,O1,O2,O3,O4,PA,O5,O6,O7,O8,PA,O9,N70,O1,PA,O2,O3,O4,O5,O6,O7,O8,O9,N80,O1,PA,O",
    "2,O3 z + RI,PA,O4,O5,O6,PA,O7,O8,O9,N90,O1,O2,O3 Ef,O4,O5,O6,O7,O8,O9,M400,O1,O2,O3,O4,O5,O6",
    ",O7,O8,O9,N10 BEGh LOGOGzM MdK,PA q.LOGOGzM MdK,O1,O2,O3,O4,O5,O6,O7,O8,O9,N20,O1,O2,O3,O4,O",
    "5,O6,O7,O8,O9,N30,O1,O2,O3,O4,O5,O6,O7,O8,O9,N40,O1,O2,O3,O4,O5,O6,O7,O8,O9,N50,PA,O1,O2,O3,",
    "O4,O5,O6,O7,PA,O8,O9,N60,O1,O2,O3,O4,O5,O6,O7,O8,O9,N70,O1,O2,O3,O4,O5,O6,O7,O8,O9,N80,O1,O2",
    ",O3,O4,O5,O6,O7,O8,O9,N90,O1,O2,O3,O4,O5,O6,O7,M501,O2,O3,O4,O5,O6,O7,O8,O9,N10,O1,O2,O3,O4,",
    "O5,O6,O7,O8,O9,N20,O1,O2,O3,O4,O5,O6,O7,O8,O9,N30,=16800,0BAMUM iTTj PuSE-A NGKUtMFl,LGBIEtF",
    "l,LPl MFl PIPAEMGBIEE,aBA,LNAA MFl,LSHUqSHUET,Ls& MFl,LNZA MFl,LSHhDA PA NJI,LPl PA NJI PIPA",
    "EMGBIEE,cBA,L~EMBGBIEE,LTU ~EMBA,LNGkGU,L~EMVEUX,NNSUAE,MVEUAqGAM,LSEUNYAM,LNTOQPq,LKEUKEUTN",
    "DA,LNKh<,LSUU,LNGKUqZEUM,L$PAQ,MEyKUT,LN&P MFAA,L~EKEUP,LPASuE,LG*UAjAE,LPAMSuE,LMl NGGEUAET",
    ",LNZUN _UT,LU YUQ NAE,LG*UAEG*UAE,LN&P N&A,L:SA,LMGBASA,MEUNJOMNDEUQ,MOOMPUQ,LKAFA,LPA ijAEW",
    "A,LNDA ijAEWA,LPET,L~EMKPq,LNIKA,LPUP,LTUAEP,LLUAEP,LSlJAM,LTEUTEUWq,L~qYI,LKET,LNDAkGGEUAET",
    ",LKUOQ,LMOO_UT,LSHUM,LLOM~E,LFIRI,L^M,LKPOQ,LSOQ,L~P PIEET,LS|zE,LN&P,LSHOQ NSHUyYUM,LNYIyMl",
    "GKEUAEQ,LPAdAE,LNKAdAE,LUNKNrN,LNGGq,L~E:,LNJAM,LMBkYI,LNYET,LTEUAq,LSOT,LPAAM,LNS|EE,L~EM,L",
    "NYI,LKAQ,LNSu,LVEE,LLU,LNq,MAQ,LMBAQ,JB NSHUET,LTU ~EMGBIEE,L:EE,MEyTU,LLOM NTEUM,LMBA ~EiE,",
    "LKIEEM,LYEUzE,LMBAdAE,LKAM,LPEES|,LYAFU ijAEWA,L$M NSHUyNYAM,LNsEEm*UOQ,MDU NJAA,LG*UG*UAEM,",
    "LPIT,LTU N:EE,LS*yNJAQ,OUAEQTU,LMFl TEUAEQ,MBIyMBAAKET,LNYI NTEUM,LKEUPUQ,LG*UGHq,LKEUYEUX,L",
    "$kAE,LPdUM,LVEUM,LNGKh< MVOP,NGEU MBU,LWUAET,LSAKEUAE,L&AM,L_UQ,LNGGUOQ,R LdGE,LMFIYAQ,LSUE,",
    "LMBEURI,MlsEq,LNYAE~E,LPUNGAAM,L_UyNGGEET,LFEUX,LMBUOQ,LFEE,LKEUAEM,L~ NJEUAqA,QUQA,LiT,LNGG",
    "AAM,MSq,L~,LKIQ,LNGOM,JC NGKUt~EMBA,MZA,LYUM,LWkGKUOQ,LNGGq,MDEUAjEE,MGKAQ,LGHdAE,LMBEEKEET,",
    "LGBAYI,LNYIR MKPdAQ _UN,MTU MBIT,LMBEUM,LPIRIEq,LNDOMBU,LMBAA CABBAGE-TvE,LKEUS*UAEP,LGuP,LK",
    "EUKAQ,LYU MUO~E,LNZEUM,LMBUE,LNSEUAq,LMBIT,LYEUQ,LKPdAQ,MAA,LSEUX,LN<DA,L&ASuE,LNJUEQ,Ls& YU",
    "E,LSUAET,LNGGUAq NYAM,LVEUX,LNkSkAQ,L~ KEUAjI,LN&A,MGGUl,L$P,LMBIRIEq,MGBASAQ,LNTEUNGBA,LTEU",
    "TEUX,LNGGUM,LFUE,LNDEUT,MSA,NuQ,LBUNG,LVEUAEPq,LMBjAE,LRU,LNJAEM,L$M,LsTUAEP,LNSUOyNGOM,MJEE",
    "EE,LKET,LNGGU,L~E:,MBUAEM,LLU,LKUT,LNJAM,MGOM,LWUP,LNGGUEET,MSOM,MTq,LKUOP NKAdAE,LNSUN,MDAM",
    ",L~ N:EE,LYAA,LNDAP,LSHUEQ,METFl,LMBI,MAEMBA,MBkYI,LKEUSEUX,LMBEUX,LKEUM,LMBAA PICKET,LYUWOQ",
    ",LNJEUX,LMIEE,MUAE,LS|Q,LKq $W,PFAsGUE,LNGAQ,MAQ,LLIQ,LPh,Mq,LTET,J.MBUO,LWAP,LNJI,LMFl,LNJI",
    "EE,LLIEE,LNJEUT,MS*E,MGGAA~E,MYAM,LWUAq,LNGKUN,LS*E,LNGKAP,LKEUAET_UN,LTEUT,LS*UAE,LNJAP,LSU",
    "E,LKET,LYAEM~E,LKUOM,LSAP,LMFEUT,LNDEUX,LMeEjI,MEUT,LSEUAEQ,LYq,LNJEUAEM,LKEUOyMBUAE,LNGKEUR",
    "I,LTU,LGuA,LNGKYEE,LFEUFEUAET,LNDEE,LMGBOFUM,LiUAEP,LNDl,LMlI,MGBEUN,LPUUT,LMGBIEE,MFO,LLUM,",
    "LN:EEP,LMBAA,LKWAET,LNYET,LTEUAq,LSOT,LYUWOQ,LKEUM,LzEM,LTEEEE,LNGKEUAEQ,LMFEUAE,LN:EET,LKEU",
    "P,LPIP,MEU&E,LNYUE,LiT,LNGGAAM,LMFIEE,LNGGWAq,LYUOM,LPAP,LYUOP,LNDAM,MTEUM,LSUAE,LKUN,LNGGEU",
    "X,NKIEE,LTUOT,L_UN,LKUQ,LNSUM,LTEUN,L~qJET,LNGGAP,LiUM,LNGGUOM,MSHUT,MJUEQ,LG*UAE,LKU,LRq OL",
    "D,L&E,MOQ,LNYI,LRII,LiEEE,L_EEE,M,LSUU,LMU,LS|I,NEUX,LKYEE,LNU,LSHU,LNTEE,LPEE,LNI,LSHOQ,LPU",
    "Q,LMVOP,LLOQ,LRq MUCH,Ls,LNTUU,LMBAAmEVq,LSAQ,LFAA,JtNDAP,LTOl,LMBEUM,L$P,LVOM,LLOl,LPAA,LSO",
    "M,LzQ,LNSHUOP,MDUN,LPUAE,L&M,LNGKA,LKPEUX,LWUO,LSEE,LNGGEUAET,LPAAM,LTOO,LKUOP,LLOM,LNS|EE,M",
    "GOP,L~EM,LNGKEUX,NOQ,MSHUE,LRIMGBA,LNJEUX,LPEEM,LSAA,LNGGUzE,LMGBA,LG*UX,LNGKEUAEM,MJAEMLI,L",
    "~P,LLOOT,LNGGEEEE,M<Q,L&q NTEUM,LSET,LPUM,LNDAAmOFTNESS,MGGUAESutNYAM,LYIEE,LG*UN,LTUAE,LYEU",
    "AE,LPO,LTU~E,LKEUAE,LSUAq,LTEUAEQ,LVEUAE,LWEUX,L$AM,LPU,L&AQ,LGuA~E,LNGEUvUT,LS*UAEQ,LMGBq,M",
    "BEE,LNZAQ,MKOM,LGBET,LTUM,LKUET,LYAP,LNYI CiAVj,LYIT,LMFEUQ,LN<AQ,LPIEEQ,LYUEQ,LiUAEM,LFUE,L",
    "GBEUX,LNGKUP,LKET,L~E,LNGKAAMI,LG*T,LFA,LNTUM,LPEUT,LYEUM,LNGGEUAE,MYI BETWEq,MZUQ,LPOl,LMIE",
    "E,LFUET,LNAE,LMUAE,LG*UAE,LFU I,LMVI,LPUAQ,LNGKUM,LKUT,LPIET,LN&P,LYEUAET,LNGGUP,LPA PEOPi,L",
    "FU CeL,MOM,LNJEE,LA,LTOQ,LO,LI,L$Q,LPA PLURe,L&A,NQ,LNDAA MY H%SE,LS|Q,LYEUX,LNGUAE,LYUAq,MO",
    "QmWIMMhG,PCOVj,MUQ,NN,LKEUX,LPEUX,LNJEtEPOCH,LPUE,LWUE,LFEE,LVEE,LLU,LMI,LvUX,MAE,LNGUAET,NA",
    ",LSHO,OQ,LFU v_DY,LNA,LPI,LLOQ,LKO,LMq,MA,NQ,LTEU,LKI,LMl,LTq,LFAQ,LGHOM,JF KA,LU,LKU,LEE,Lv",
    "E,L&E,LNYI,L$,LRII,NEE,L_EEE,L&A,LNDAA,MJAEM,LM,LSUU,M|I,MI,MEUX,LKYEE,MET,LNUAE,N,MJUAE,LYO",
    "Q,LSHU,LYA,LNSu,LPEUX,LNTEE,LWUE,LPEE,LRU,LNI,LvUX,LKq,LNGKWAq,NGA,LSHO,LPUAE,LFOM,LWA,LLI,M",
    "OQ,LKO,LMBq,LRq,L~,MO,MBAA,LTET,LKPA,LSAMBA,LVUEQ,=16A40,0M^ iTTj &,BNGI,BYO,BMIM,BBA,BDA,BA",
    ",BP|,BKuI,BuO,BDAI,BCHU,BKEAAE,BOL,B~EM,BNh,BPA,BOO,C,B^,BS|,BxEA,BEA,BWA,BE,BKO,BLk,D,BuI,B",
    "RI,BTEK,=16A60,4<GIyZjO,AlE,ATWO,BHvE,AF%R,BIVE,A:X,BEVq,AEf,ANhE,=16A6E,5kDA,5%Bi DkDA,0TkG",
    "SA iTTj OZ,FC,FQ,FX,EAZ,FC,FQ,FX,EVZ,FC,FQ,FX,EEZ,FC,FQ,FX,EIZ,FC,FQ,FX,EUZ,FC,FQ,FX,EAWZ,GC",
    ",GQ,GX,EUIZ,GC,GQ,GX,EFhe NG,ELlG UEX,ESH+yUEZ,KAWX,EUEC,GZ,GQ,GX,FIUZ,HC,HQ,HX,EMZ,FC,FQ,FX",
    ",EKA,Fu,EGA,ENGA,ESA,EYA,EWA,EPA,ENYA,EPu,EBA,E~,ENA,Eu,E$,EH&,E&,EDA,Ez,ENu,ESu,ECA,ETSA,EG",
    "u,EHT&,ETu,EXA,EFA,EDu,ECu,EZA,=16AC0,7<GIyZjO,DlE,DTWO,EHvE,DF%R,EIVE,D:X,EEVq,DEf,DNhE,=16",
    "AD0,0BASSA VAH iTTj qNI,HKA,HSE,HFA,HMBE,HYIE,HGAH,HD|I,HKPAH,HJO,HHWAH,HWA,HZO,HGBU,HDO,HCE",
    ",HUWU,HTO,HBA,HVU,HYEh,HPA,HWADDA,HA,HO,IO,HU,HEE,I,HI,=16AF0,ACOMBhhG |GH TlE,KLr TlE,KMI.T",
    "lE,KLr-MI.TlE,K|GH-Lr TlE,AFULLmTOP,=16B00,0PAuWH HMlG VrEL KEEB,MV,KIB,LV,KAUB,MV,KUB,LV,KE",
    "B,LV,KAIB,MV,KOOB,MV,KAWB,MV,KUAB,MV,KOB,LV,KIAB,MV,KAB,LV,KWB,LV,KAAB,MV,DClSlkyVAU,NNTSAU,",
    "N$U,NuU,NN$U,NzU,NNKAU,NQuU,NYAU,NH$U,N~U,NCuU,NNCuU,NHNAU,NPLuU,NNTuU,OAU,NAU,NXAU,NCAU,DMd",
    "K CIM TUB,MSO,MKES,NuV,MSUAM,MHOM,M&UM,DSw VO!xOM,NSuB CEEB,ICIM C*EM,IVO!xIAB,MFEEM,IXYEEM ",
    "NTXIV,ORHO,OTOV,OFAIB,IVOSmEEV,I_EJmUAB,IVO!NRUA,IIB YAM,IXAUS,ICIM TSOV ^G,=16B50,D<GIyZjO,",
    "JlE,JTWO,KHvE,JF%R,KIVE,J:X,KEVq,JEf,JNhE,=16B5B,DNUMBj TqS,KHUNDvDS,KTq x%SkDS,KMILLIlS,KHU",
    "NDRoMILLIlS,KTq BILLIlS,LRILLIlS,=16B63,DSw VO!LUB,IXYOO,IHLI,IxIRD-S&GtHLI,IZWJ TuJ,IHNUB,I",
    "NQIG,IXIAB,INTUJ,IAV,ITX*EJ CEEV,I_EJ TSEEB,I&U,ILOS,IMUS,ICIM uI!LU!NTOG NTOG,MCUAM TSHOOJ,",
    "MTXWV,Q CHWV,MPUB DAWB,MNv!TOS,=16B7D,DCLkmw TS*EJ,NYEEG,NLIS,OAUJ,NXYOOJ,NKOO,NuWJ,NMUAS,Nx",
    "OJ,OSAB,NPuB,NKuB,NuM,NVAJ,NFAJ,NYAJ,NTSWB,NKWM,NVWJ,=16E40,0_DEFAIDRh caM,RS,RV,RW,RAsU,RZ,",
    "RKP,RP,RT,RG,RF,RI,RK,RA,RJ,RE,RB,RC,RU,RYU,RL,RQ,RHP,RNY,RX,RD,ROE,RN,RR,RO,RAI,RY,C?eaM,PS",
    ",PV,PW,PAsU,PZ,PKP,PP,PT,PG,PF,PI,PK,PA,PJ,PE,PB,PC,PU,PYU,PL,PQ,PHP,PNY,PX,PD,POE,PN,PR,PO,",
    "PAI,PY,C<GIyZjO,IlE,ITWO,JHvE,IF%R,JIVE,I:X,JEVq,IEf,INhE,CNUMBj Tq,JEiVq,JTWELVE,K|RTEq,JF%",
    "RTEq,KIFTEq,J:XTEq,KEVqTEq,JEfEq,JNhETEq,C<GIylteTjNATEg,ITWO eTjNATEg,JHvteTjNATEg,CCOM~,CF",
    "ULLmTOP,CS> AIVA,CEXC$~sl OH,=16F00,1IAO iTTj PA,CBA,CYI PA,CP$,C~,Du,CdCuIC ~,CFA,CVA,DFA,C",
    "&,CDA,CYI T&,GA,CT&,CDDA,CNA,Du,CYI NNA,CdCuIC NA,CNNA,Eu,C$,DYA,Du,EYA,CTLu,CDLu,CTLHYA,CDL",
    "HYA,CKA,CGA,CYI KA,CQA,DGA,CNGA,Eu,CdCuIC NGA,Cu,CXA,CGu,Eu,CTSSA,CDZZA,CNYA,Eu,CTSu,CDZu,CY",
    "I TSu,FDZu,CvF+MoTSu,CSu,DSA,CZu,DSu,CTSA,CDZA,CYI TSA,CSA,CZA,DSA,DZA,ESA,CdCuIC ZZA,CZZYA,",
    "ESYA,CWA,CAH,CHu,CBRI,CSYI,CDZYI,CTE,DSE,CRTE,=16F4F,5Sw ClSlkyMO<FIj Bd,5iTTj NASeIZAsl,5Sw",
    " ASPIzsl,AvF+MoVOIChG,JASPIzsl,5VrELmw A,HA,HHH,HN,IG,GO,HO,GWO,H,GE,HN,IG,GOEY,GI,HA,IN,JG,",
    "HO,HE,HI,HU,HNG,GU,HA,IN,JG,HU,HEI,HNG,GY,HI,GAE,IE,GjR,GR%NDojR,Gj,GR%NDoj,GAI,GEI,GAU,G%,G",
    "N,HG,GUOG,GYUI,GOG,Hj,GVW,GIG,GEA,GIlG,GUI,=16F8F,5TltRf,ATOP Rf,AABOVE,ABELr,5iTTj TlE-2,H3",
    ",H4,H5,H6,H7,H8,CvF+MoTlE-1,Q2,Q4,Q5,Q6,Q8,=16FE0,0TkGUyITjAsl MdK,0NUSHU ITjAsl MdK,0OL.CHh",
    "EStHOOK MdK,CITjAsl MdK,0K|TkmMeLmCRIPyFILiR,=16FF0,0VIETNA_SteTjNATtvADhG MdK CA,YNuY,=1880",
    "0,0TkGUyCOMPlqT-001,J2,J3,J4,J5,J6,J7,J8,J9,I10,J1,J2,J3,J4,J5,J6,J7,J8,J9,I20,J1,J2,J3,J4,J",
    "5,J6,J7,J8,J9,I30,J1,J2,J3,J4,J5,J6,J7,J8,J9,I40,J1,J2,J3,J4,J5,J6,J7,J8,J9,I50,J1,J2,J3,J4,",
    "J5,J6,J7,J8,J9,I60,J1,J2,J3,J4,J5,J6,J7,J8,J9,I70,J1,J2,J3,J4,J5,J6,J7,J8,J9,I80,J1,J2,J3,J4",
    ",J5,J6,J7,J8,J9,I90,J1,J2,J3,J4,J5,J6,J7,J8,J9,H100,J1,J2,J3,J4,J5,J6,J7,J8,J9,I10,J1,J2,J3,",
    "J4,J5,J6,J7,J8,J9,I20,J1,J2,J3,J4,J5,J6,J7,J8,J9,I30,J1,J2,J3,J4,J5,J6,J7,J8,J9,I40,J1,J2,J3",
    ",J4,J5,J6,J7,J8,J9,I50,J1,J2,J3,J4,J5,J6,J7,J8,J9,I60,J1,J2,J3,J4,J5,J6,J7,J8,J9,I70,J1,J2,J",
    "3,J4,J5,J6,J7,J8,J9,I80,J1,J2,J3,J4,J5,J6,J7,J8,J9,I90,J1,J2,J3,J4,J5,J6,J7,J8,J9,H200,J1,J2",
    ",J3,J4,J5,J6,J7,J8,J9,I10,J1,J2,J3,J4,J5,J6,J7,J8,J9,I20,J1,J2,J3,J4,J5,J6,J7,J8,J9,I30,J1,J",
    "2,J3,J4,J5,J6,J7,J8,J9,I40,J1,J2,J3,J4,J5,J6,J7,J8,J9,I50,J1,J2,J3,J4,J5,J6,J7,J8,J9,I60,J1,",
    "J2,J3,J4,J5,J6,J7,J8,J9,I70,J1,J2,J3,J4,J5,J6,J7,J8,J9,I80,J1,J2,J3,J4,J5,J6,J7,J8,J9,I90,J1",
    ",J2,J3,J4,J5,J6,J7,J8,J9,H300,J1,J2,J3,J4,J5,J6,J7,J8,J9,I10,J1,J2,J3,J4,J5,J6,J7,J8,J9,I20,",
    "J1,J2,J3,J4,J5,J6,J7,J8,J9,I30,J1,J2,J3,J4,J5,J6,J7,J8,J9,I40,J1,J2,J3,J4,J5,J6,J7,J8,J9,I50",
    ",J1,J2,J3,J4,J5,J6,J7,J8,J9,I60,J1,J2,J3,J4,J5,J6,J7,J8,J9,I70,J1,J2,J3,J4,J5,J6,J7,J8,J9,I8",
    "0,J1,J2,J3,J4,J5,J6,J7,J8,J9,I90,J1,J2,J3,J4,J5,J6,J7,J8,J9,H400,J1,J2,J3,J4,J5,J6,J7,J8,J9,",
    "I10,J1,J2,J3,J4,J5,J6,J7,J8,J9,I20,J1,J2,J3,J4,J5,J6,J7,J8,J9,I30,J1,J2,J3,J4,J5,J6,J7,J8,J9",
    ",I40,J1,J2,J3,J4,J5,J6,J7,J8,J9,I50,J1,J2,J3,J4,J5,J6,J7,J8,J9,I60,J1,J2,J3,J4,J5,J6,J7,J8,J",
    "9,I70,J1,J2,J3,J4,J5,J6,J7,J8,J9,I80,J1,J2,J3,J4,J5,J6,J7,J8,J9,I90,J1,J2,J3,J4,J5,J6,J7,J8,",
    "J9,H500,J1,J2,J3,J4,J5,J6,J7,J8,J9,I10,J1,J2,J3,J4,J5,J6,J7,J8,J9,I20,J1,J2,J3,J4,J5,J6,J7,J",
    "8,J9,I30,J1,J2,J3,J4,J5,J6,J7,J8,J9,I40,J1,J2,J3,J4,J5,J6,J7,J8,J9,I50,J1,J2,J3,J4,J5,J6,J7,",
    "J8,J9,I60,J1,J2,J3,J4,J5,J6,J7,J8,J9,I70,J1,J2,J3,J4,J5,J6,J7,J8,J9,I80,J1,J2,J3,J4,J5,J6,J7",
    ",J8,J9,I90,J1,J2,J3,J4,J5,J6,J7,J8,J9,H600,J1,J2,J3,J4,J5,J6,J7,J8,J9,I10,J1,J2,J3,J4,J5,J6,",
    "J7,J8,J9,I20,J1,J2,J3,J4,J5,J6,J7,J8,J9,I30,J1,J2,J3,J4,J5,J6,J7,J8,J9,I40,J1,J2,J3,J4,J5,J6",
    ",J7,J8,J9,I50,J1,J2,J3,J4,J5,J6,J7,J8,J9,I60,J1,J2,J3,J4,J5,J6,J7,J8,J9,I70,J1,J2,J3,J4,J5,J",
    "6,J7,J8,J9,I80,J1,J2,J3,J4,J5,J6,J7,J8,J9,I90,J1,J2,J3,J4,J5,J6,J7,J8,J9,H700,J1,J2,J3,J4,J5",
    ",J6,J7,J8,J9,I10,J1,J2,J3,J4,J5,J6,J7,J8,J9,I20,J1,J2,J3,J4,J5,J6,J7,J8,J9,I30,J1,J2,J3,J4,J",
    "5,J6,J7,J8,J9,I40,J1,J2,J3,J4,J5,J6,J7,J8,J9,I50,J1,J2,J3,J4,J5,J6,J7,J8,J9,I60,J1,J2,J3,J4,",
    "J5,J6,J7,J8,=1AFF0,0KA&KkA iTTj MhNk TlE-2,S3,S4,S5,=1AFF5,S7,S8,NNASeIZoTlE-1,c2,c3,c4,c5,=",
    "1AFFD,c7,c8,=1B000,GdCuIC E,0|zGkA iTTj dCuIC YE,1q&IGkA iTTj A-1,K2,K3,KWO,II-1,K2,K3,K4,IU",
    "-1,K2,K3,K4,K5,IE-2,K3,K4,K5,K6,IO-1,K2,K3,IKA-1,L2,L3,L4,L5,L6,L7,L8,L9,L10,M1,LKE,JI-1,L2,",
    "L3,L4,L5,L6,L7,L8,JU-1,L2,L3,L4,L5,L6,L7,JE-1,L2,L3,L4,L5,L6,JO-1,L2,L3,LKI,ISA-1,L2,L3,L4,L",
    "5,L6,L7,L8,JI-1,L2,L3,L4,L5,L6,JU-1,L2,L3,L4,L5,L6,L7,L8,JE-1,L2,L3,L4,L5,JO-1,L2,L3,L4,L5,L",
    "6,L7,I&-1,L2,L3,L4,JI-1,L2,L3,L4,L5,L6,L7,JU-1,L2,L3,L4,LTO,JE-1,L2,L3,L4,L5,L6,L7,L8,L9,JO-",
    "1,L2,L3,L4,L5,L6,Lz,INA-1,L2,L3,L4,L5,L6,L7,L8,L9,JI-1,L2,L3,L4,L5,L6,L7,LTE,JU-1,L2,L3,JE-1",
    ",L2,L3,L4,L5,L6,LKO,JO-1,L2,L3,L4,L5,Iu-1,L2,L3,L4,L5,L6,L7,L8,L9,L10,M1,JI-1,L2,L3,L4,L5,L6",
    ",L7,JU-1,L2,L3,JE-1,L2,L3,L4,L5,L6,L7,JO-1,L2,L3,L4,L5,L6,L7,L8,I~-1,L2,L3,L4,L5,L6,L7,JI-1,",
    "L2,L3,L4,L5,L6,L7,JU-1,L2,L3,L4,JE-1,L2,L~,JO-1,L2,L3,L4,L5,L6,IYA-1,L2,L3,L4,L5,LYO,JU-1,L2",
    ",L3,L4,JO-1,L2,L3,L4,L5,L6,Iz-1,L2,L3,L4,JI-1,L2,L3,L4,L5,L6,L7,JU-1,L2,L3,L4,L5,L6,JE-1,L2,",
    "L3,L4,JO-1,L2,L3,L4,L5,L6,IWA-1,L2,L3,L4,L5,JI-1,L2,L3,L4,L5,JE-1,L2,L3,L4,JO-1,L2,L3,L4,L5,",
    "L6,L7,IN-MU-MO-1,Q2,1IzGkA iTTj dCuIC WU,0KA&KkA iTTj dCuIC YI,PE,OWU,=1B150,0|zGkA iTTjmMeL",
    " WI,NE,NO,=1B164,0KA&KkA iTTjmMeL WI,NE,NO,MN,=1BC00,0DUPLOYk iTTj H,GX,GP,GT,GF,GK,GL,GB,GD",
    ",GV,GG,GR,GP N,GDm,GF N,GK M,GRm,Gx,GSLOk DH,GDH,GKK,GSLOk J,GHL,GLH,GRH,GM,GN,GJ,GS,GM N,GN",
    " M,GJ M,G!J,GMbDOT,GNbDOT,GJbDOT,Q!h:DtkDn,GSbDOT,Q BELr,GMm,GNm,GJm,GSm,GM Nm,GN Mm,GJ Mm,G",
    "!Jm,GJmbDOT,IN,Jm,G!T,J R,IP,J R,GTm,IRm,GW,HH,H R,G!N,IM,GK Rm,GG Rm,G!K,J R,GA,GSLOk r,GOA",
    ",H,GA%,GI,GE,GIE,GSH+yI,GUI,GEE,GSLOk EH,G^MkIk I,GSLOk EE,GLlG I,GYE,GU,GEU,GXW,GU N,GLlG U",
    ",G^MkIk U,GUH,GSLOk U,GOOH,HW,HU,GWA,HO,HI,HEI,Hr,GNASe U,MO,MI,MA,GPjNh k,OM,GSLOk q,Mk,Ml,",
    "GVOCeIC M,=1BC70,9AFFIX iFyH+IZlTemECkT,FMI.H+IZlTemECkT,FRf H+IZlTemECkT,FLr VjsCemECkT,FMI",
    ".VjsCemECkT,F|GH VjsCemECkT,FAT&C*DmECkT,OiFT-TO-RfmECkT,OTkGqT,QIL,OtHOOK,OI HOOK,OTkGqyHOO",
    "K,=1BC80,F|GH ACUTE,KTf ACUTE,KGzVE,KLlG GzVE,KDOT,K;i,KLhE,KWAVE,KVjsCe,=1BC90,FLr ACUTE,JT",
    "f ACUTE,JGzVE,JLlG GzVE,JDOT,J;i,JLhE,JWAVE,JVjsCe,JdRr,=1BC9C,9Sw ObC^SS,9xICK iTTjmEiCT+,9",
    "D%Bi MdK,9PUNCTUAsl CHhOOK FULLmTOP,0SH+xkDgAyiTTj OVj$P,HClThUhG OVj$P,HDrNmTEP,HUPmTEP,=1C",
    "F00,0ZNAMqNY COMBhhG MdK GOzZDO NIZKOm KRYZ*M l iFT,ONIZKOm KRYZ*M l iFT,OTSA& l iFT,OGOzZDO",
    " NIZKO l iFT,ONIZKO l iFT,OSvDNtl iFT,OMeO POVYSHtl iFT,OPOVYSHtl iFT,OVYSOKO l iFT,OMeO POV",
    "YS*m KHOKHLOM l iFT,OPOVYS*m KHOKHLOM l iFT,OVYSOKOm KHOKHLOM l iFT,OGOzZDO NIZKOm KRYZ*M l ",
    "Rf,ONIZKOm KRYZ*M l Rf,OTSA& l Rf,OGOzZDO NIZKO l Rf,ONIZKO l Rf,OSvDNtl Rf,OMeO POVYSHtl Rf",
    ",OPOVYSHtl Rf,OVYSOKO l Rf,OMeO POVYS*m KHOKHLOM l Rf,OPOVYS*m KHOKHLOM l Rf,OVYSOKOm KHOKHL",
    "OM l Rf,OTSA&m KRYZ*M,OMeO POVYS*m KRYZ*M,OSTRkNO MeO POVYS*,OPOVYS*m KRYZ*M,XTRkNO,OVYSOKOm",
    " KRYZ*M,OMeO POVYS*mTRkNO,OGOzZDO VYSOKO,OZELO,Ol,OzVNO,OsKuYA,OB+ZAYA,OUDdKA,OPODVjTKA,OLOM",
    "KA,OKUPNAYA,PACHKA,OZEVOK,OSKOBA,OzZSEKA,OKRYZH l iFT,=1CF30,JTle RkGtMdK MzCHNO,aSVETLO,aTv",
    "SVETLO,JMdK ZADjZHKA,ODE_STVqNY ZADjZHKA,OOTSECHKA,OPODCuS|E,YbVjsCemT^KE,OCuSHKA,V POLNAYA,",
    "OOB$CHKO,OS+OCHYA NOZHKA,OTOCHKA,ODVOETOC|E,JAT&CHhG VjsCe O_T,JMdK CURVoO_T,OKRYZH,JLrj Tle",
    " RkGth<CAT+,9PRIZNAK MO<FIj iVEL-2,W3,Q<vCsl FLIP,QKRYZH,Q^G,=1CF50,9NEUMtKRYUK,K sKHY,FPdAK",
    "LIT,FDVA V C*LNU,FKLYUCH,FZkOZ*K,FSTOPITSA,Nm OCHKOM,FPjEVODKA,O NEPOSTOYkNAYA,FSTOPITSAbS+O",
    "CHYA NOZHKA,FC*LYUSTKA,FPeKA,FZAPYA&YA,FGOLUBC|K B+ZY,PsKHY,PMzCHNY,PSVETLY,PTvSVETLY,FVzK|Y",
    "A P^S&YA,OMzCHNAYA,OSVET$YA,OTvSVET$YA,OKLYUC*VAYA P^S&YA,aMzCHNAYA,aSVET$YA,aTvSVET$YA,FD%B",
    "i ZAPYA&YA,FvVjSoC*LYUSTKA,FDjBITSA,FKuMILO,FCuSHKA,FPODCuS|E,FSKA_YTSA MzCHNAYA,PSVET$YA,PT",
    "vSVET$YA,QIKuYA,FDE_STVqNY KLYUCH,FSKA_YTSA KLYUC*VAYAmVET$YA,WNEPOSTOYkNAYA,WVAYA sKuYA,PDV",
    "OEC*LNAYA P^S&YA,cSVET$YA,cNEPOSTOYkNAYA,cKLYUC*VAYA,GLOZ|sE,Om ZAPYATOY,PZAKRYTOE,P!KRYZ*M,",
    "FKRYZH,F^G,FFI&,FKOBY$,FZ_YTSA,FS&TYA,Lm ZAPYATOY,OKRYZ*M,OZAPYATOY I KRYZ*M,OKRYZ*M I ZAPYA",
    "TOY,MZAKRY&YA,Vm ZAPYATOY,M!^GOM,ODVUMYA ZAPYATYMI,OZAPYATOY I PODCuS|EM,FPOLKULIZMY,FS&TYA ",
    "NEPOSTOYkNAYA,Hv$ P^S&YA,MMzCHNOsKuYA,MKRYZ*VAYA,MPOLUPOVODNAYA,OVODNAYA,MNEPOSTOYkNAYA,MKLY",
    "UC*POVODNAYA,TNEPOSTOYkNAYA,MsKuYA PUTNAYA,MDVOEC*LNAYA,VOKRYZ*VAYA,WPOVODNAYA,VAYA KLYUC*VA",
    "YA,VOPOVODNAYA KLYUC*VAYA,MG^MNAYAbShGi ZAPYA&YA,QOPOVODNAYAbShGi ZAPYA&YA,QNAYA,QOPOVODNAYA",
    ",abD%Bi ZAPYA&YA,RKRYZ*VAYA,b POVODNAYA,F_C|K,L POVODNY,MKLYUC*VOY,TPOVODNY,TNEPOSTOYkNY,FST",
    "v$ TRYASOG$SNAYA,SPOVODNAYA,SSTvLNAYA,FOSOKA,KmVET$YA,LTvSVET$YA,LKRYUKOVAYAmVET$YA,MLYUC*VA",
    "YAmVET$YA,XNEPOSTOYkNAYA,FSTv$ KRYUKOVAYA,W POVODNAYA,XG^MNAYAbShGi ZAPYA&YA,bOPOVODNAYAbShG",
    "i ZAPYA&YA,bNAYA,bOPOVODNAYA,lbD%Bi ZAPYA&YA,cKRYZ*VAYA,m POVODNAYA,XTRYASKA,FKUFI?A,FOB$KO,",
    "FDUDA,FNEMKA,FPAUK,=1D000,0BYZkThtMU:Cem> P:LI,PDASEIA,PPjISPOMqI,POXEIA EKFlIsKl,V<PLI,PVdE",
    "IA EKFlIsKl,W<PLI,PKAxISs,PSYR~sKI,PPdAKLIsKI,PYPOKRI:S,Y <PLI,PKv~Ss,PAPESO EKFlIsKl,PEXO E",
    "KFlIsKl,PTEiIA,PKqs~&,PAPOST^FOS,Z <PLI,PSYNEV~,PxI&,POLIGl dCuIl,PG+Gl dCuIl,PP:Ll,PCuMILl,",
    "PVAxY,PISl dCuIl,PKqs~ dCuIl,W& dCuIl,PSAXI~&,PPdICHl,PS&V^!APODEXIA,POXEIAI dCuIl,PVdEIAI d",
    "CuIl,PAPODj~ dCuIl,SxE~,PK$?A,PvV~,PPIA?A dCuIl,PThAG~,PkATRIC|?A,PSEI?A,QYNAG~ dCuIl,X_&m&V",
    "R%,POYRkI?A dCuIl,PxE~,PiMOI,PDYO,PTRIA,QESSjA,PKzs~&,PAPESO EXO NEO,PFxOz dCuIl,PIMIFxOz,PT",
    "^MIKl dCuIl,PKA&VA T^MIKl,PPE$STl,Q:FISTl,PKlTEV~,PCHOvV~ dCuIl,PzPI?A,PPdAKeE?A dCuIl,ULIsK",
    "I dCuIl,PICuDh,PNkA,PPE&?A,PKlTEV~ eLO,PT^MIKl eLO,PSTzGGI?A&,PGRlxI?A&,PISl NEO,POLIGl NEO,",
    "QXEIA NEO,PPE&Ss,PK%FI?A,PPE&STOK%FI?A,PKzsMOK%FI?A,PPE$STl NEO,PKqs~& NEO kO,W NEO kO,PYP:L",
    "I,PAPOST^FO!NEO,YImYNDE?O!NEO,PYP+^I,PKzsMOYP+^l,PE$FRl,PCuMILI,PMIKRl ISl,PVdEIA NEO,PPIA?A",
    " NEO,Q:FISTl NEO,POMel,PksKqO~,PLYGI?A,PPdAKLIsKI NEO,UeE?A NEO,PETjl PdAKeE?A,PKYLI?A,PksKq",
    "OKYLI?A,PT^MIKl NEO,PEKSTvPTl,PSYNAG~ NEO,RR~,PCHOvV~ NEO,PEPEGj~,PSEI?A NEO,PXIRl K$?A,PT^M",
    "IKOP:FISTl,PP:FISTOLYGI?A,PT^MIKOLYGI?A,WPdAKeE?A,PP:FISTOPdAKeE?A,PT^MIKOSYNAG~,PP:FISTOSYN",
    "AG~,PG+GOSYNxETl,PdGOSYNxETl,PETjl dGOSYNxETl,POYRkI?A NEO,PxE~s?O!ESO,cXO,U APL%N,S!KAI APO",
    "xES,PKA&VA?A,PqDOFll,PYFq KATO,UkO,PS&V^S,PK$?A kO,P<PLI dCuIl,PKzs~ dCuIl,YLLO,XNEO,PAPODj~",
    " NEO,RLI,P<PLI,PTRIPLI,QETzPLI,PK+lIS,PiIM~ qO!CHRl%,WDYO CHRll,WTRIl CHRll,XESSdl CHRll,WIM",
    "ISEO!CHRl%,PG+Gl NEO kO,WPdESsGMql dISTjA,kDEXIA,P<G+Gl,X PdESsGMql dISTjA KATO,vkO,mDEXIA,P",
    "TRIG+Gl,PdGl,PIMI<dGl,P<dGl,PAGOGI POLI dGI,VdGOTjI,YI,V_TRIA,X:,VG+GI,ZOTjI,VPOLI G+GI,PMdT",
    "YRIA P^TO!ICHOS,YeLI P^TO!ICHOS,YDEYTjO!ICHOS,YeLI DEYTjO!ICHOS,YTRITO!ICHOS,bFlIAS,ZETdTO!I",
    "CHOS,hiGETO!ICHOS,YiGETO!ICHOS,YP$GIO!ICHOS,PISAKIA TEL%!IC|~TOS,PAPOST^FOI TEL%!IC|~TOS,PFk",
    "jO:!TETzFlIAS,ZMlOFlIAS,Z<FlIAS,PMdTYRIA VdY!ICHOS,YP^TOVdY!ICHOS,Z$GIO!TETdTO!ICHOS,PG+xMIK",
    "l N APL%N,c<PL%N,PqdXI!KAI FxOz V%,PIMIFll,Tx+l,PFxOz dCuIl DEYTj% ICH%,W<ATlIKI PA,gNkA,WNA",
    "O!ICHOS,W<ATlIKI <,WSKLIRl <ATll <,W<ATlIKI KE,gZO,gNI KATO,jkO,WMeAKl CH^~ <FlIAS,lMlOFlIAS",
    ",QHTOzmKLIRl CH^~ VA:S,QxOzmKLIRl CH^~mYNAFI,WNqkO,PCH^A ZYGOS,VKLITl,VSPAxI,PFxOz I YFE:!TE",
    "TdsM+Il,WqdMlIO!ksFlIA,PYFE:!TRIsM+Il,P<E:!TRIsM+Il,XETdsM+Il,WAPLI DYO DODEKA&,WMlOGzMMO!TE",
    "SSjA DODEKA&,W<GzMMO!EX DODEKA&,WTRIGzMMO!OKTO DODEKA&,PYFE:!APLI DYO DODEKA&,WMlOGzMMO!TESS",
    "jA DODEKA&,W<GzMMO!EX DODEKA&,WTRIGzMMO!OKTO DODEKA&,PGqIKI <E:S,WYFE:S,P<ASTOLI APLI MIKRI,",
    "eEGeI,Y<PLI,YxESEOS,P:Mk:!xESEOS,f <:M%,gTRI:M%,hETz:M%,YdSEOS,e <:M%,fTRI:M%,gETz:M%,P<GzM~",
    " GG,RFTOGGO!%,PSsG~,PdKsKO PA,XV%,XGA,X<,XKE,XZO,XNI,PKqs~& NEO _SO,W NEO _SO,W& NEO KATO,W ",
    "NEO KATO,Q$?A KATO,PG+Gl NEO KATO,=1D100,0MU:Cem>mhGi BdLhE,FD%Bi BdLhE,FFhe BdLhE,FvVjStFhe",
    " BdLhE,FDASHoBdLhE,FSH+yBdLhE,FiFyvPEATmw,FRf vPEATmw,GEPEAyDOTS,FDemEGNO,H CAPO,FSEGNO,FCOD",
    "A,FvPEAToFIGUv-1,V2,V3,FFj~&,M BELr,FBvAx MdK,FCAESUz,FBzCE,JKET,FlE-LhEm&FF,FTWO-LhEm&FF,GH",
    "vE-LhEm&FF,FF%R-LhEm&FF,GIVE-LhEm&FF,F:X-LhEm&FF,JSTRhG FvTBOdD,FF%R-STRhG FvTBOdD,FG CiF,L ",
    "OT&VA e&,TBASSA,FC CiF,FF CiF,L OT&VA e&,TBASSA,FDRUM CiF-1,P2,=1D129,FMULsPi _ASURtvST,FD%B",
    "imHdP,MF$T,FF$yUP,KDrN,FNATURe UP,NDrN,FSHdP UP,LDrN,FQUdTj TlEmHdP,SF$T,FCOMMl s_,GUys_,FOT",
    "&VA e&,MBASSA,FQUh<CE:~ e&,SBASSA,FMULs vST,FWHOi vST,FHeF vST,FQUdTj vST,FEfH vST,F:XTEqx v",
    "ST,FxIRTY-SECl.vST,F:XTY-F%Rx vST,FltHUNDRoTWqTY-EfH vST,FX NOTE*AD,FPLU!NOTE*AD,F;i X NOTE*",
    "AD,FSQUdtNOTE*A.W|TE,VB$CK,FTRIkGi NOTE*A.UP W|TE,aB$CK,XiFyW|TE,cB$CK,XRf W|TE,dB$CK,XDrN W",
    "|TE,cB$CK,XUP Rf W|TE,gB$CK,FMOl NOTE*A.W|TE,TB$CK,FTRIkGi-R%N.NOTE*A.DrN W|TE,iB$CK,FPdqxE:",
    "!NOTE*AD,FVOI.NOTE*AD,FNOTE*A.B$CK,GULL NOTE*AD,FCLUSTj NOTE*A.W|TE,WB$CK,FBvVE,FWHOi NOTE,F",
    "HeF NOTE,FQUdTj NOTE,FEfH NOTE,F:XTEqx NOTE,FxIRTY-SECl.NOTE,F:XTY-F%Rx NOTE,FltHUNDRoTWqTY-",
    "EfH NOTE,FCOMBhhGmTEM,QPvCHGESkGmTEM,PTvMOLO-1,X2,X3,FFhGjoTvMOLO-1,W2,W3,FCOMBhhG AUGMq&sl ",
    "DOT,PF$G-1,U2,U3,U4,U5,FBEGh BEAM,Fq.BEAM,FBEGh sE,Fq.sE,FBEGhmLUR,FqDmLUR,FBEGh PHzSE,Fq.PH",
    "zSE,FCOMBhhG ACCqT,PS&CCATO,PTqUTO,PS&CCAsS:MO,PMdCATO,W-S&CCATO,PACCqT-S&CCATO,PL%v,FdPEGGI",
    "ATO UP,QDrN,FCOMBhhG DOIT,PRIP,PFLIP,P?Ed,PBqD,PD%Bi TlGUE,PTRIPi TlGUE,FRhF+ZkDO,FSUBITO,FZ",
    ",FPIkO,F_ZZO,FF+TE,FCvSCqDO,FDECvSCqDO,FGzCtNOTEm$SH,QNOm$SH,FTR,GURN,FhVjToTURN,FTURNm$SH,K",
    "UP,F+NAMqTmT^KE-1,V2,V3,V4,V5,V6,V7,V8,V9,V10,W1,FuUPTSsM_,FNEBqSsM_,Fq.OFmsM_,FDEGvEm$SH,FC",
    "OMBhhG DrN Br,PUP Br,PHdMlIC,PSNAP PIZZICATO,FPEDe MdK,LUP MdK,FHeF PEDe MdK,FGLISSkDO UP,PD",
    "rN,FWIx FhGjNAILS,FDAMP,J eL,F~XI~,FLlGA,FBvVIS,FSEMIBvVI!W|TE,QB$CK,FMhI~,L B$CK,FSEMIMhI~ ",
    "W|TE,QB$CK,FFUSA W|TE,KB$CK,FLlGA PjFEC& vST,LIMPjFEC& vST,FBvVI!vST,FSEMIBvVI!vST,FMhI~ vST",
    ",FSEMIMhI~ vST,FTEMPU!PjFECTUM CUM P^$sltPjFEC&,lIMPjFEC&,lPjFEC& <MhUsl-1,MIMPjFECTUM CUM P",
    "^$sltPjFEC&,nIMPjFEC&,x <MhUsl-1,zIMhUsl-2,zIMhUsl-3,FC^IX,FGvG+Ik C CiF,PF CiF,FSQUdtB,FVIR",
    "GA,FPODATUS,FCLIVIS,FSCk<CUS,FCLI~CUS,FT+CULUS,FP+vCTUS,O FiXUS,FSCk<CU!FiXUS,FT+CULU!vSUPhU",
    "S,FPESmUBPUNCsS,FKIEVk C CiF,Mq.OF PIECE,MFhe NOTE,MvCI&sVtMdK,MWHOi NOTE,MHeF NOTE,MQUdTj N",
    "OTEmTEM DrN,eUP,MEfH NOTEmTEM DrN,dUP,MF$Tmw,FS+I,FK+l,=1D200,0GvEK VOCe NO&slm>-1,S2,S3,S4,",
    "S5,S6,S7,S8,S9,S10,T1,T2,T3,T4,T5,T6,T7,T8,T9,S20,T1,T2,T3,T4,S50,T1,T2,T3,T4,6hSTRUMqTe NO&",
    "slm>-1,Z2,Z4,Z5,Z7,Z8,Z11,a2,a3,a4,a7,a8,a9,Z23,a4,a5,a6,a7,a9,Z30,a2,a6,a7,a8,a9,Z40,a2,a3,",
    "a5,a7,a8,a9,Z50,a1,a2,a3,a4,0COMBhhG GvEK MU:Ce TRISE_,PETzSE_,OPq&SE_,0GvEK MU:Ce iIM~,=1D2",
    "E0,0~Yk NUMje ZjO,ElE,ETWO,FHvE,EF%R,FIVE,E:X,FEVq,EEf,ENhE,ETq,EEiVq,ETWELVE,F|RTEq,EF%RTEq",
    ",FIFTEq,E:XTEq,FEVqTEq,EEfEq,ENhETEq,=1D300,1lOGzM F+ Edx,0<GzM F+ *AVqLY Edx,CUMk Edx,BEdxL",
    "Y *AVq,KUMk,G,0TETzGzM F+ CqTv,EFULL ;i,EMIvD,EBdRIj,EKEEPhGmMeL,EClTRdIETY,EASCqT,EOPPO:sl,",
    "EBRkCHhG %T,EDEFECsVqES!+ <ST+sl,FIVjGqCE,EY%xFULNESS,EhCvASE,EPqETzsl,EvACH,ECl&CT,EHOLDhG ",
    "BACK,EWAIThG,EFOLLrhG,EADVkCE,EviASE,G:STkCE,EEASE,EJOY,EClTqsl,EqDEAV%R,EDUsES,ECHkGE,EDECI",
    ":VqESS,EBOL.vSOLUsl,EPACKhG,EiGIl,ECLOSqESS,EKhS|P,EGAxjhG,ESTRqGx,EPURITY,EFULLNESS,Ev:DqCE",
    ",E$W + MODEL,EvSPlSE,EGOhG TO _ET,EqC%NTjS,ESTOVE,EGvATNESS,EqLdGEMqT,EPATTjN,ERITUe,EFLf,EV",
    "ASTNES!+ WASThG,EClSTkCY,E_ASUv,EETjNITY,EUNITY,E<MhISHMqT,ECLOSoM%x,EGUdDEDNESS,FAxjhG h,E~",
    "SShG,EACCUMU$sl,EEMBELLISHMqT,ED%BT,EWATCH,EShKhG,EhNj,EDEPdTUv,FdKqhG,FIMMhG,EEXuUSsl,ESEVj",
    "kCE,FTOPPAGE,EHdDNESS,ECOMPisl,FLOSUv,EFAILUv,EAGGzVAsl,ECOMPLIkCE,El xtVjGE,E<FFICULsES,E$B",
    "%RhG,EFOSTjhG,=1D360,0C%NThG ^.UNIy<GIylE,OTWO,PHvE,OF%R,PIVE,O:X,PEVq,OEf,ONhE,DTq!<GIylE,O",
    "TWO,PHvE,OF%R,PIVE,O:X,PEVq,OEf,ONhE,0IDEOGzP|C TeLY MdK lE,NTWO,OHvE,NF%R,OIVE,0TeLY MdK lE",
    ",BFIVE,=1D400,0~xE~sCe BOL.cL A,QB,QC,QD,QE,QF,QG,QH,QI,QJ,QK,QL,QM,QN,QO,QP,QQ,QR,QS,QT,QU,",
    "QV,QW,QX,QY,QZ,I?eL A,OB,OC,OD,OE,OF,OG,OH,OI,OJ,OK,OL,OM,ON,OO,OP,OQ,OR,OS,OT,OU,OV,OW,OX,O",
    "Y,OZ,DITeIC cL A,SB,SC,SD,SE,SF,SG,SH,SI,SJ,SK,SL,SM,SN,SO,SP,SQ,SR,SS,ST,SU,SV,SW,SX,SY,SZ,",
    "K?eL A,QB,QC,QD,QE,QF,QG,=1D456,QI,QJ,QK,QL,QM,QN,QO,QP,QQ,QR,QS,QT,QU,QV,QW,QX,QY,QZ,DBOL.I",
    "TeIC cL A,XB,XC,XD,XE,XF,XG,XH,XI,XJ,XK,XL,XM,XN,XO,XP,XQ,XR,XS,XT,XU,XV,XW,XX,XY,XZ,P?eL A,",
    "VB,VC,VD,VE,VF,VG,VH,VI,VJ,VK,VL,VM,VN,VO,VP,VQ,VR,VS,VT,VU,VV,VW,VX,VY,VZ,DSCRIPycL A,=1D49",
    "E,SC,SD,=1D4A2,SG,=1D4A5,SJ,SK,=1D4A9,SN,SO,SP,SQ,=1D4AE,SS,ST,SU,SV,SW,SX,SY,SZ,K?eL A,QB,Q",
    "C,QD,=1D4BB,QF,=1D4BD,QH,QI,QJ,QK,QL,QM,QN,=1D4C5,QP,QQ,QR,QS,QT,QU,QV,QW,QX,QY,QZ,DBOLDmCRI",
    "PycL A,XB,XC,XD,XE,XF,XG,XH,XI,XJ,XK,XL,XM,XN,XO,XP,XQ,XR,XS,XT,XU,XV,XW,XX,XY,XZ,P?eL A,VB,",
    "VC,VD,VE,VF,VG,VH,VI,VJ,VK,VL,VM,VN,VO,VP,VQ,VR,VS,VT,VU,VV,VW,VX,VY,VZ,DFzKTUR cL A,TB,=1D5",
    "07,TD,TE,TF,TG,=1D50D,TJ,TK,TL,TM,TN,TO,TP,TQ,=1D516,TS,TT,TU,TV,TW,TX,TY,=1D51E,L?eL A,RB,R",
    "C,RD,RE,RF,RG,RH,RI,RJ,RK,RL,RM,RN,RO,RP,RQ,RR,RS,RT,RU,RV,RW,RX,RY,RZ,DD%Bi-STRUCK cL A,ZB,",
    "=1D53B,ZD,ZE,ZF,ZG,=1D540,ZI,ZJ,ZK,ZL,ZM,=1D546,ZO,=1D54A,ZS,ZT,ZU,ZV,ZW,ZX,ZY,=1D552,R?eL A",
    ",XB,XC,XD,XE,XF,XG,XH,XI,XJ,XK,XL,XM,XN,XO,XP,XQ,XR,XS,XT,XU,XV,XW,XX,XY,XZ,DBOL.FzKTUR cL A",
    ",YB,YC,YD,YE,YF,YG,YH,YI,YJ,YK,YL,YM,YN,YO,YP,YQ,YR,YS,YT,YU,YV,YW,YX,YY,YZ,Q?eL A,WB,WC,WD,",
    "WE,WF,WG,WH,WI,WJ,WK,WL,WM,WN,WO,WP,WQ,WR,WS,WT,WU,WV,WW,WX,WY,WZ,DSkS-SjIF cL A,WB,WC,WD,WE",
    ",WF,WG,WH,WI,WJ,WK,WL,WM,WN,WO,WP,WQ,WR,WS,WT,WU,WV,WW,WX,WY,WZ,O?eL A,UB,UC,UD,UE,UF,UG,UH,",
    "UI,UJ,UK,UL,UM,UN,UO,UP,UQ,UR,US,UT,UU,UV,UW,UX,UY,UZ,OBOL.cL A,bB,bC,bD,bE,bF,bG,bH,bI,bJ,b",
    "K,bL,bM,bN,bO,bP,bQ,bR,bS,bT,bU,bV,bW,bX,bY,bZ,T?eL A,ZB,ZC,ZD,ZE,ZF,ZG,ZH,ZI,ZJ,ZK,ZL,ZM,ZN",
    ",ZO,ZP,ZQ,ZR,ZS,ZT,ZU,ZV,ZW,ZX,ZY,ZZ,OITeIC cL A,dB,dC,dD,dE,dF,dG,dH,dI,dJ,dK,dL,dM,dN,dO,d",
    "P,dQ,dR,dS,dT,dU,dV,dW,dX,dY,dZ,V?eL A,bB,bC,bD,bE,bF,bG,bH,bI,bJ,bK,bL,bM,bN,bO,bP,bQ,bR,bS",
    ",bT,bU,bV,bW,bX,bY,bZ,OBOL.ITeIC cL A,iB,iC,iD,iE,iF,iG,iH,iI,iJ,iK,iL,iM,iN,iO,iP,iQ,iR,iS,",
    "iT,iU,iV,iW,iX,iY,iZ,a?eL A,gB,gC,gD,gE,gF,gG,gH,gI,gJ,gK,gL,gM,gN,gO,gP,gQ,gR,gS,gT,gU,gV,g",
    "W,gX,gY,gZ,DMlOSPACtcL A,VB,VC,VD,VE,VF,VG,VH,VI,VJ,VK,VL,VM,VN,VO,VP,VQ,VR,VS,VT,VU,VV,VW,V",
    "X,VY,VZ,N?eL A,TB,TC,TD,TE,TF,TG,TH,TI,TJ,TK,TL,TM,TN,TO,TP,TQ,TR,TS,TT,TU,TV,TW,TX,TY,TZ,DI",
    "TeICmMeL DOTiS!I,YJ,=1D6A8,DBOL.cL ePu,QBE&,QGAM~,QDEL&,QEP:Ll,QZE&,QE&,QxE&,QIO&,QKAPPA,Q$M",
    "DA,QMU,QNU,QXI,QOMICRl,QPI,QRHO,QxE&m>,Q:G~,Q&U,QUP:Ll,QP|,QC|,QP:,QO_GA,INAB$,I?eL ePu,OBE&",
    ",OGAM~,ODEL&,OEP:Ll,OZE&,OE&,OxE&,OIO&,OKAPPA,O$MDA,OMU,ONU,OXI,OOMICRl,OPI,ORHO,OFhemIG~,O:",
    "G~,O&U,OUP:Ll,OP|,OC|,OP:,OO_GA,IPdse <FFjqse,IEP:Llm>,IxE&m>,IKAPPAm>,IP|m>,IRHOm>,IPIm>,DI",
    "TeIC cL ePu,SBE&,SGAM~,SDEL&,SEP:Ll,SZE&,SE&,SxE&,SIO&,SKAPPA,S$MDA,SMU,SNU,SXI,SOMICRl,SPI,",
    "SRHO,SxE&m>,S:G~,S&U,SUP:Ll,SP|,SC|,SP:,SO_GA,KNAB$,K?eL ePu,QBE&,QGAM~,QDEL&,QEP:Ll,QZE&,QE",
    "&,QxE&,QIO&,QKAPPA,Q$MDA,QMU,QNU,QXI,QOMICRl,QPI,QRHO,QFhemIG~,Q:G~,Q&U,QUP:Ll,QP|,QC|,QP:,Q",
    "O_GA,KPdse <FFjqse,KEP:Llm>,KxE&m>,KKAPPAm>,KP|m>,KRHOm>,KPIm>,DBOL.ITeIC cL ePu,XBE&,XGAM~,",
    "XDEL&,XEP:Ll,XZE&,XE&,XxE&,XIO&,XKAPPA,X$MDA,XMU,XNU,XXI,XOMICRl,XPI,XRHO,XxE&m>,X:G~,X&U,XU",
    "P:Ll,XP|,XC|,XP:,XO_GA,PNAB$,P?eL ePu,VBE&,VGAM~,VDEL&,VEP:Ll,VZE&,VE&,VxE&,VIO&,VKAPPA,V$MD",
    "A,VMU,VNU,VXI,VOMICRl,VPI,VRHO,VFhemIG~,V:G~,V&U,VUP:Ll,VP|,VC|,VP:,VO_GA,PPdse <FFjqse,PEP:",
    "Llm>,PxE&m>,PKAPPAm>,PP|m>,PRHOm>,PPIm>,DSkS-SjIF BOL.cL ePu,bBE&,bGAM~,bDEL&,bEP:Ll,bZE&,bE",
    "&,bxE&,bIO&,bKAPPA,b$MDA,bMU,bNU,bXI,bOMICRl,bPI,bRHO,bxE&m>,b:G~,b&U,bUP:Ll,bP|,bC|,bP:,bO_",
    "GA,TNAB$,T?eL ePu,ZBE&,ZGAM~,ZDEL&,ZEP:Ll,ZZE&,ZE&,ZxE&,ZIO&,ZKAPPA,Z$MDA,ZMU,ZNU,ZXI,ZOMICR",
    "l,ZPI,ZRHO,ZFhemIG~,Z:G~,Z&U,ZUP:Ll,ZP|,ZC|,ZP:,ZO_GA,TPdse <FFjqse,TEP:Llm>,TxE&m>,TKAPPAm>",
    ",TP|m>,TRHOm>,TPIm>,TITeIC cL ePu,iBE&,iGAM~,iDEL&,iEP:Ll,iZE&,iE&,ixE&,iIO&,iKAPPA,i$MDA,iM",
    "U,iNU,iXI,iOMICRl,iPI,iRHO,ixE&m>,i:G~,i&U,iUP:Ll,iP|,iC|,iP:,iO_GA,aNAB$,a?eL ePu,gBE&,gGAM",
    "~,gDEL&,gEP:Ll,gZE&,gE&,gxE&,gIO&,gKAPPA,g$MDA,gMU,gNU,gXI,gOMICRl,gPI,gRHO,gFhemIG~,g:G~,g&",
    "U,gUP:Ll,gP|,gC|,gP:,gO_GA,aPdse <FFjqse,aEP:Llm>,axE&m>,aKAPPAm>,aP|m>,aRHOm>,aPIm>,DBOL.cL",
    " <GAM~,I?eL <GAM~,=1D7CE,I<GIyZjO,OlE,OTWO,PHvE,OF%R,PIVE,O:X,PEVq,OEf,ONhE,DD%Bi-STRUCK <GI",
    "yZjO,XlE,XTWO,YHvE,XF%R,YIVE,X:X,YEVq,XEf,XNhE,DSkS-SjIF <GIyZjO,UlE,UTWO,VHvE,UF%R,VIVE,U:X",
    ",VEVq,UEf,UNhE,OBOL.<GIyZjO,ZlE,ZTWO,aHvE,ZF%R,aIVE,Z:X,aEVq,ZEf,ZNhE,DMlOSPACt<GIyZjO,TlE,T",
    "TWO,UHvE,TF%R,UIVE,T:X,UEVq,TEf,TNhE,0SwWRIThG HkD-FISyhDEX,H;i hDEX,IUP hDEX,HOVe hDEX,HHhG",
    "thDEX,HkGi hDEX,HFISyhDEX BqT,H;i hDEX BqT,HFISyxUMB UNDj hDEX BqT,MhDEX zISoKNUCKi,SCUPPED,",
    "SHhGED,Y Lr,H;i hDEX HhGE,HFISyhDEX MIDDi,H;i hDEX MIDDi,HFISyhDEX MIDDi BqT,ZzISoKNUCKiS,ZH",
    "hGED,SUP MIDDi HhGED,SHhGoMIDDi UP,SMIDDi ClJOhED,i hDEX BqT,jMIDDi BqT,jCUPPED,jHhGED,a^SSE",
    "D,H;i hDEX MIDDi C^SSED,HFISyMIDDi BqyOVj hDEX,MhDEX BqyOVj MIDDi,SMIDDi xUMB,H;i hDEX MIDDi",
    " xUMB,HFISyhDEX MIDDimTzf xUMB BqT,ZBqyxUMBmTzf,ZxUMB BqT,ZHhGEDmPvA.xUMBmIDE,SUP MIDDi HhGo",
    "xUMBmIDE,pClJOhED,SHhGoMIDDi UP xUMBmIDE,SMIDDi UPmPvA.xUMB F+WdD,ZxUMB CUPPED,gIRCiD,fHOOKE",
    "D,ghGED,MxUMB BETWEq hDEX MIDDimTzf,MhDEX MIDDi ClJOhoxUMBmIDE,t ClJOhED,uBqT,MMIDDi xUMB HO",
    "OKohDEX UP,MhDEX xUMB HOOKoMIDDi UP,SMIDDi ClJOhoHhGoxUMBmIDE,a^SSoxUMBmIDE,alJOhoxUMB F+WdD",
    ",jCUPPoxUMB F+WdD,MMIDDi xUMB CUPPohDEX UP,MhDEX xUMB CUPPoMIDDi UP,MMIDDi xUMB ;i.hDEX UP,n",
    "HhGED,MhDEX xUMB kGi.%yMIDDi UP,fh MIDDi UP,Y;i.MIDDi UP,SMIDDi xUMB ClJOhoHhGED,fkGi.%T,l,M",
    "MIDDi xUMB kGi.%yhDEX UP,qC^SSED,ghDEX UP,MhDEX xUMB HOOKoMIDDi HhGED,I$yF%R FhGjS,Y BqT,ZHh",
    "GED,ZClJOhED,imPLIT,HC$W F%R FhGj!ClJOhED,HFISyF%R FhGj!ClJOhoBqT,HHhGtF%R FhGj!ClJOhED,HF$y",
    "FIVtFhGjSmPvAD,M*EL FIVtFhGjSmPvAD,MFIVtFhGjSmPvA.F%R BqT,M*EL FIVtFhGjSmPvA.F%R BqT,MFIVtFh",
    "GjSmPvA.BqT,M*EL FIVtFhGjSmPvA.BqT,MFIVtFhGjSmPvA.xUMB F+WdD,HCUP FIVtFhGjSmPvAD,e OPq,HHhGt",
    "FIVtFhGjSmPvA.OPq,HOVe FIVtFhGjSmPvAD,HF$yFIVtFhGjSmPvA.HhGED,m xUMBmIDE,nNO xUMB,L,L BETWEq",
    " PeM FAChGS,M*EL,MxUMBmIDE,M*EL xUMBmIDE,MxUMB BqT,SF+WdD,MSPLIyhDEX xUMBmIDE,SCqTv,Y xUMBmI",
    "DE,j BqT,SLITTi,HC$W,L xUMBmIDE,MNO xUMB,MxUMB F+WdD,HHOOK CURLICUE,L,HCUP OPq,K,K OPq xUMBm",
    "IDE,LxUMBmIDE,LOPq NO xUMB,LNO xUMB,LOPq xUMB F+WdD,LxUMB F+WdD,JRLICUtOPq,P,IIRCi,HOVe,L xU",
    "MBmIDE,MNO xUMB,MxUMB F+WdD,HHhGtOPq,R xUMB F+WdD,M,MmMeL,NOPq xUMBmIDE,NxUMBmIDE,NOPq NO xU",
    "MB,NNO xUMB,NxUMBmIDtT%CHhG hDEX,TBETWEq MIDDi RhG,HkGi,HFISyhDEX MIDDi RhG,H;i hDEX MIDDi R",
    "hG,HHhGthDEX MIDDi RhG,HkGi hDEX MIDDi RhG,HHhGtLITTi,HFISyhDEX MIDDi RhG BqT,eClJOhED,HHhGt",
    "hDEX MIDDi RhG ClJOhED,HFISyLITTi DrN,X RIPPimTzf,fCURVED,YOxj!;iD,TUP,MxUMB UNDj LITTi UP,H",
    ";i LITTi UP,HOVe LITTi UP,HkGi LITTi UP,HFISyLITTi zISoKNUCKi,TBqT,TT%C*!xUMB,UHUMB,HHhGtLIT",
    "Ti xUMB,HFISyLITTi hDEX xUMB,HHhGtLITTi hDEX xUMB,HkGi LITTi hDEX xUMB hDEX xUMB %T,r,HFISyL",
    "ITTi hDEX,H;i LITTi hDEX,HHhGtLITTi hDEX,HkGi LITTi hDEX,HFISyhDEX MIDDi LITTi,H;i hDEX MIDD",
    "i LITTi,HHhGthDEX MIDDi LITTi,NRhG,HkGi hDEX MIDDi LITTi,HFISyhDEX MIDDi C^S!LITTi,H;i hDEX ",
    "MIDDi C^S!LITTi,HFISyRhG DrN,HHhGtRhG DrN hDEX xUMB HOOK MIDDi,HkGi RhG DrN MIDDi xUMB hDEX ",
    "C^SS,HFISyRhG UP,RzISoKNUCKi,RLITTi,H;i RhG LITTi,HOVe RhG LITTi,HkGi RhG LITTi,HFISyRhG MID",
    "Di,X ClJOhED,YzISoKNUCKiS,RhDEX,RxUMB,HHOOK RhG xUMB,HFISyhDEX RhG LITTi,H;i hDEX RhG LITTi,",
    "IURLICUthDEX RhG LITTi l,HHOOK hDEX RhG LITTi %T,eh,eUNDj,HCUP hDEX RhG LITTi,HHhGthDEX RhG ",
    "LITTi,HkGi hDEX RhG LITTi %T,e,HFISyMIDDi DrN,HHhGtMIDDi,HFISyMIDDi UP,H;i MIDDi UP,HFISyMID",
    "Di zISoKNUCKi,TUP xUMBmIDE,HHOOK MIDDi xUMB,HFISyMIDDi xUMB LITTi,TLITTi,TRhG LITTi,H;i MIDD",
    "i RhG LITTi,IURLICUtMIDDi RhG LITTi l,JP MIDDi RhG LITTi,HHhGtMIDDi RhG LITTi,HkGi MIDDi RhG",
    " LITTi %T,gh,f,H;i MIDDi RhG LITTi BqT,I$W MIDDi RhG LITTi ClJOhED,omIDE,HHOOK MIDDi RhG LIT",
    "Ti ClJOho%T,ph,o,IhGthDEX HhGED,HFISyhDEX xUMBmIDE,HHhGthDEX xUMBmIDE,HFISyhDEX xUMBmIDtxUMB",
    " <AGle,jClJOhED,jBqT,dhDEX BqT,dBOx BqT,dhDEX HhGE,YF+Wd.hDEXmTzf,mBqT,YHOOK,YCURLICUE,bVtxU",
    "MB h:DE,HC$W hDEX xUMB CURVtxUMB h:DE,HFISyhDEX xUMB CURVtxUMB UNDj,ZIRCi,HCUP hDEX xUMB,W O",
    "Pq,HHhGthDEX xUMB OPq,ZLdGE,Y,YmMeL,HkGi hDEX xUMB %T,Zh,Y,HFISyxUMB,R *EL,S:Dt<AGle,XClJOhE",
    "D,XBqT,SF+WdD,SBETWEq hDEX MIDDi,aMIDDi RhG,aRhG LITTi,SUNDj TWO FhGjS,SOVj TWO FhGjS,"]

end CharName

end Marginalia
