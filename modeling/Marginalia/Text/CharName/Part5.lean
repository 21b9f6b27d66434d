/-!
# Names of characters from 0x1d900 to 0xe01ef

The names of Unicode 14 in the packed form that `CharName.seek` reads.
-/

namespace Marginalia

namespace CharName

/-- The packed names of these characters. -/
def part5 : List String :=
  ["=1D900,0SwWRIThG HkD-FISyxUMB UNDj xvtFhGjS,YF%R FhGjS,SOVj F%R zISoKNUCKiS,L,L *EL,CT%CHmhG",
    "i,IMULsPi,IBETWEq,CGzSPmhGi,IMULsPi,IBETWEq,CSTRIKEmhGi,JMULsPi,JBETWEq,CBRUSHmhGi,IMULsPi,I",
    "BETWEq,CRUBmhGi,GMULsPi,GBETWEq,CSURFACEm>S,KBETWEq,DQUEEZtLdGEmhGi,K?eLmhGi,KLdGtMULsPi,K?e",
    "L MULsPi,LEQUqse,CFLICK LdGEmhGi,I?eLmhGi,ILdGtMULsPi,I?eL MULsPi,JEQUqse,CSQUEEZtFLICK eTjN",
    "AThG,CMOVEMqT-HhGtUP DrN LdGE,Z?eL,USEQUqse,RDrNmEQUqse,RUP DrN eTjNAThG LdGE,l?eL,R:DtTOmID",
    "EmCISS+S,LWeLPLktFhGj Cl&CT,LFLO+PLktFhGj Cl&CT,LWeLPLkEmhGimTzfmMeL,l_<UM,lLdGE,qST,cWRISyF",
    "iX,VD%BimTzf,cWRISyFiX,ceTjNAThG,n WRISyFiX,VC^SS,VTRIPimTzf MOVEMqT,cWRISyFiX,ceTjNAThG,n W",
    "RISyFiX,VBqDmMeL,a_<UM,aLdGE,VC+NjmMeL,c_<UM,cLdGE,c^&sl,W*CKmMeL,b_<UM,bLdGE,VBOXmMeL,Z_<UM",
    ",ZLdGE,VZIGZAGmMeL,c_<UM,cLdGE,VPEAKSmMeL,b_<UM,bLdGE,CTzVEL-WeLPLkt^&sl-WeLPLkEmhGi,mD%Bi,m",
    "eTjNAThG,cFLO+PLkEmhGi,nD%Bi,neTjNAThG,TSuKhG,TdMmPIRemhGi,eD%Bi,eTRIPi,CMOVEMqT-<AGle AWAYm",
    "MeL,Z_<UM,ZLdGE,eST,UTrdDSmMeL,c_<UM,cLdGE,hST,UBETWEq AWAYmMeL,h_<UM,hLdGE,mST,cTrdDSmMeL,k",
    "_<UM,kLdGE,pST,LFLO+PLkEmhGimTzfmMeL,m_<UM,mLdGE,rST,dWRISyFiX,WD%BimTzf,dWRISyFiX,deTjNAThG",
    ",o WRISyFiX,WC^SS,WTRIPimTzf MOVEMqT,dWRISyFiX,deTjNAThG MOVEMqT,pWRISyFiX,WBqD,WC+NjmMeL,d_",
    "<UM,dLdGE,X*CK,WBOXmMeL,a_<UM,aLdGE,WZIGZAGmMeL,d_<UM,dLdGE,WPEAKSmMeL,c_<UM,cLdGE,CTzVEL-FL",
    "O+PLkt^&sl-FLO+PLkEmhGi,oD%Bi,oeTjNAThG,dWeLPLkEmhGi,nD%Bi,neTjNAThG,USuKhG,CMOVEMqT-WeLPLkt",
    "CURVtQUdTjmMeL,j_<UM,jLdGE,oST,bHeF-;imMeL,n_<UM,nLdGE,sST,bxvE-QUdTj ;imMeL,w_<UM,VHUMPmMeL",
    ",a_<UM,aLdGE,VLOOPmMeL,a_<UM,aLdGE,a?eL D%Bi,VWAVtCURVtD%BimMeL,n_<UM,nLdGE,gTRIPimMeL,n_<UM",
    ",nLdGE,VCURVtxqmTzf,a.C^SSmMeL,i_<UM,C^&sl-WeLPLkEmhGi,VD%Bi,VeTjNATE,CMOVEMqT-WeLPLkEmuKhG,",
    "VCURVt|TThG FRlyWeL,VHUMP |TThG FRlyWeL,VLOOP |TThG FRlyWeL,VWAVt|TThG FRlyWeL,C^&sl-WeLPLkE",
    "mhGi |TThG FRlyWeL,VD%Bi |TThG FRlyWeL,VeTjNAThG |TThG FRlyWeL,CMOVEMqT-WeLPLktCURVt|TThG C*",
    "ST,VHUMP |TThG C*ST,VLOOP |TThG C*ST,VWAVt|TThG C*ST,C^&sl-WeLPLkEmhGi |TThG C*ST,VD%Bi |TTh",
    "G C*ST,VeTjNAThG |TThG C*ST,CMOVEMqT-WeLPLktWAVt<AGle PAxmMeL,o_<UM,oLdGE,LFLO+PLktCURVt|TTh",
    "G CEILhGmMeL,sLdGE,WHUMP |TThG CEILhGmMeL D%Bi,rLdGtD%Bi,r?eL TRIPi,rLdGtTRIPi,WLOOP |TThG C",
    "EILhGmMeLmhGi,rLdGEmhGi,r?eL D%Bi,rLdGtD%Bi,WWAVt|TThG CEILhGmMeL,rLdGE,C^&sl-FLO+PLkEmhGi |",
    "TThG CEILhG,WD%Bi |TThG CEILhG,WeTjNAThG |TThG CEILhG,CMOVEMqT-FLO+PLktCURVt|TThG FLO+mMeL,q",
    "LdGE,WHUMP |TThG FLO+mMeL D%Bi,pLdGtD%Bi,pTRIPimMeL TRIPi,wLdGtTRIPi,WLOOP |TThG FLO+mMeLmhG",
    "i,pLdGEmhGi,p?eL D%Bi,pLdGtD%Bi,WWAVt|TThG FLO+mMeL,pLdGE,C^&sl-FLO+PLkEmhGi |TThG FLO+,WD%B",
    "i |TThG FLO+,WeTjNAThG |TThG FLO+,CMOVEMqT-FLO+PLktCURVEmMeL,c_<UM,cLdGE,hST,cCOMBhED,WHUMPm",
    "MeL,WLOOPmMeL,WWAVEmNAKE,cMeL,bLdGE,C^&sl-FLO+PLkEmhGi,WD%Bi,WeTjNAThG,CMOVEMqT-FLO+PLkEmuKh",
    "G PdeiL,LWeLPLktdM ;imMeLmhGi,g_<UMmhGi,g?eL D%Bi,g_<UM D%Bi,LFLO+PLktdM ;i |TThG WeLmMeLmhG",
    "i,u_<UMmhGi,uLdGEmhGi,u?eL D%Bi,u_<UM D%Bi,uLdGtD%Bi,LWeLPLktWRISy;i FRlTmhGi,oD%Bi,LFLO+PLk",
    "tWRISy;i |TThG WeLmhGi,wD%Bi,LWeLPLktFhGj ;iSmhGi,kD%Bi,LFLO+PLktFhGj ;i!|TThG WeLmhGi,yD%Bi",
    ",CDYNAMIC dRr*ADmMeL,ULdGE,KFAST,KSLr,KTqSE,Kv$XED,K:MULTkE%S,W eTjNAThG,KEVjY Oxj s_,KGzDUe",
    ",C*AD,G RIM,HMOVEMqT-WeLPLkEmTzf,asLT,QFLO+PLkEmTzf,QWeLPLktCURVE,QFLO+PLktCURVE,P ;i,CFACt<",
    "vCsl PO:sl NOStF+Wd.sLThG,fUP + DrN,p sLThG,CEYEBRrSmTzf UP,UNEUTRe,UDrN,CDvAMY EYEBRr!NEUTR",
    "e DrN,SDrN NEUTRe,SUP NEUTRe,SNEUTRe UP,CFOv*A.NEUTRe,LCl&CT,LWRhKiD,CEYE!OPq,HSQUEEZED,HCLO",
    "SED,F BLhKmhGi,MMULsPi,F!HeF OPq,HWIDtOPq,HHeF CLOSED,HWIDqhG MOVEMqT,F WhK,F$S*!UP,MDrN,MFL",
    "UTTjhG,FGAZE-WeLPLkEmTzf,c D%Bi,deTjNAThG,KFLO+PLkEmTzf,d D%Bi,eeTjNAThG,KWeLPLktCURVED,KFLO",
    "+PLktCURVED,KWeLPLkt;LhG,CC*EK!PUFFED,JNEUTRe,JSUCKED,CTqStC*EK!|GH,PMIDDi,PLr,CEdS,CNOStNEU",
    "TRe,HCl&CT,HWRhKiS,IIGGiS,CAIR BLrhG %T,GSUCKhG h,GBLrmMeL ^&slS,GSUCKmMeL ^&slS,CBvAx hHeE,",
    "JEXHeE,CM%x CLOSoNEUTRe,PF+WdD,PCl&CT,I?Ii,N WRhKiD,OOPq,IFRrN,N WRhKiD,OOPq,IOPq ;i,NF+WdD,",
    "NWRhKiD,NOVe,R WRhKiD,SYAWN,NvCTkGi,W WRhKiD,XYAWN,IKISS,M F+WdD,NWRhKiD,ITqSE,N F+WdD,OSUCK",
    "ED,CLIP!PvSSoTOGExj,F Lrj OVj UPPj,GUPPj OVj Lrj,CM%x C+NjS,IWRhKiSmhGi,RD%Bi,CTlGUEmsCKhG %",
    "yFd,JLICKhG LIPS,JsP BETWEq LIPS,NT%CHhG h:DtM%x,Jh:DtM%x v$XED,JMOVE!AGAhSyC*EK,JCqTvmsCKhG",
    " %T,Qh:DtM%x,DEEx,H MOVEMqT,Il TlGUE,R MOVEMqT,LLIPS,P MOVEMqT,IBITtLIPS,CMOVEMqT-WeLPLktJAW",
    ",LFLO+PLktJAW,CNECK,CuIR,CEXCITEMqT,CSH%LDj |PmPhE,PPO:slS,CWeLPLkEmH%LDj |P MOVE,CFLO+PLkEm",
    "H%LDj |P MOVE,CSH%LDj sLThG F^M WAIST,CT+SO-WeLPLkEmTzfmTvTCH,SCURVoBqD,IFLO+PLktTWISThG,CUP",
    "Pj BODY sLThG F^M |P JOhTS,CLIMB COMBhAsl,HiNGx-1,O2,O3,O4,O5,O6,O7,CFhGj,CLOCAsl-WeLPLkEmPA",
    "CE,LFLO+PLkEmPACE,K *f,LWIDx,LDEPx,L*A.NECK,LT+SO,LLIMB!<GITS,CCOM~,CFULLmTOP,CSEMICOLl,CCOL",
    "l,CPdqxE:S,=1DA9B,CFILL MO<FIj-2,Q3,Q4,Q5,Q6,=1DAA1,C^&sl MO<FIj-2,U3,U4,U5,U6,U7,U8,U9,U10,",
    "V1,V2,V3,V4,V5,V6,=1DF00,0$ThmMeaFqG <GzPHbTRILL,JvVjSEDmCRIPyG,6iTTjmMeL cL TURNoG,6?eavVjS",
    "oK,6iTTjmMeL cL LbBELT,6?eaiZHbvT^FiX HOOK,JTURNoYbBELT,JvVjSoqG,JTURNoRbLlG iG k.vT^FiX HOO",
    "K,KbHOOK k.vT^FiX HOOK,6iTTj vT^FiX CLICKbvT^FiX HOOK,6?eaESHbD%Bi Bd,c k.CURL,JTURNoTbCURL,",
    "6iTTj hVjToGLOTTemTOPbCURL,DSTvTCHoCbCURL,EMeL cL TURNoK,6?eaLbFISHHOOK,JDEZH <GzPHbPeATe HO",
    "OK,JLbBELyk.PeATe HOOK,JqGbPeATe HOOK,JTURNoRbPeATe HOOK,JRbFISHHOOK k.PeATe HOOK,JTESH <GzP",
    "HbPeATe HOOK,JEZHbPeATe HOOK,JDEZH <GzPHbvT^FiX HOOK,JIbST^Ktk.vT^FiX HOOK,JObvT^FiX HOOK,JT",
    "ESH <GzPHbvT^FiX HOOK,JCbvT^FiX HOOK,JSbCURL,=1E000,0COMBhhG G$GOLIsC iTTj AZU,SBUKY,SVEDE,S",
    "G$GOLI,SDOB^,SYESTU,SZ|VETE,=1E008,TEMLJA,SIZ*,TNIse IZ*,T,SDJjVI,SKAKO,SLJU<JE,SMYSLITE,SNA",
    "S|,SlU,SPOKOJI,SRIT:,SSLOVO,STVRIDO,SUKU,SFRITU,SHjU,=1E01B,SSH&,ST:,SCHRIVI,SSu,SYjU,VI,TAs",
    ",=1E023,TU,S?eL YUS,=1E026,SYO,SIO&TEDmMeL YUS,SBIG YUS,SIO&ToBIG YUS,SFI&,=1E100,0NYIAKqG P",
    "UACHUtHMlG iTTj ~,UTSA,UN&,U&,Uu,UNA,UXA,UNKA,UCA,U$,USA,UZA,UNCA,VTSA,UKA,UDA,UNYA,Vz,UVA,U",
    "NTXA,UTXA,UFA,Uz,UQA,UYA,UNQA,UPA,UXYA,UNPA,UD$,UNP$,UuH,UM$,UP$,UGA,URz,UA,VA,UI,UU,UO,VO,U",
    "E,VE,UW,=1E130,NTlE-B,SM,SJ,SV,SS,SG,SD,NSw F+ PjSl,WxhG,WLOCAsl,WkIMe,WhVjTEBzTE,SXW XW,OYL",
    "$Bi iNGxqj,=1E140,N<GIyZjO,TlE,TTWO,UHvE,TF%R,UIVE,T:X,UEVq,TEf,TNhE,=1E14E,NLOGOGzM NYAJ,N;",
    "i.CA,=1E290,0TOTO iTTj PA,CBA,C&,CDA,CKA,CGA,C~,CNA,DGA,CSA,CCu,CYA,CWA,CJA,Cu,Cz,C$,CI,CBvA",
    "xY I,CIU,CBvAxY IU,CU,CE,CBvAxY E,CEO,CBvAxY EO,CO,CAE,CBvAxY AE,CA,5Sw RIShG TlE,=1E2C0,0Wk",
    "CHO iTTj AA,F,EBA,ECA,EDA,EGA,EYA,EPu,E$,ENA,EPA,E&,Fu,EFA,ESA,Fu,EJA,EZA,EWA,EVA,EKA,EO,EAU",
    ",Ez,E~,EKu,Eu,EE,EI,ENGA,EU,ELLu,ETSA,Fz,ElG,EAkG,FNG,EhG,El,Eq,EAk,ENYA,EUq,EYIH,7TltTUP,FN",
    "I,CKOI,FNI,7<GIyZjO,DlE,DTWO,EHvE,DF%R,EIVE,D:X,EEVq,DEf,DNhE,=1E2FF,7NGUNmw,=1E7E0,0ExIOPIC",
    "mYL$Bi HHYA,LU,LI,LAA,LEE,M,LO,=1E7E8,IGUzGtHHWA,IHHWI,LEE,M,=1E7ED,IGUzGtMWI,REE,=1E7F0,PQW",
    "I,REE,S,PBWI,REE,PKWI,REE,S,PGWI,REE,S,PFWI,REE,PPWI,REE,=1E800,0MqDtKIKAKUImYL$Bi M001 KI,Q",
    "2 KA,Q3 KU,P65 KEE,P95 KE,P76 KOO,P48 KO,O179 KUA,O004 WI,Q5 WA,Q6 WU,O126 WEE,P18 WE,Q4 WOO",
    ",O045 WO,O194 WUI,P43 WEI,O061 WVI,P49 WVA,O139 WVE,O007 Mh,Q8 Mk,Q9 MUN,P59 Mq,P94 Ml,O154 ",
    "MUk,P89 MUq,O010 BI,Q1 BA,Q2 BU,O150 BEE,O097 BE,O103 BOO,P38 BO,O013 I,Q4 A,Q5 U,O163 EE,P0",
    "0 E,P65 OO,P47 O,P37 EI,Q1 h,Q5 h,P95 k,P78 q,O019mI,P20mA,Q1mU,O162mEE,P16mE,P36mOO,O079mO,",
    "O196mIA,O025 LI,Q6 $,Q7 LU,P84 iE,P73 i,P54 LOO,O153 LO,P10 LlG i,O016 <,Q7 DA,Q8 DU,P89 DEE",
    ",O180 DOO,Q1 DO,O022 s,Q3 &,Q4 TU,P91 TEE,P55 TE,O104 TOO,O069 TO,P28 JI,Q9 JA,P30 JU,O157 J",
    "EE,P13 JE,P60 JOO,O063 JO,O175 LlG JO,O031 YI,Q2 YA,Q3 YU,O109 YEE,O080 YE,O141 YOO,P21 YO,O",
    "034 FI,Q5 FA,Q6 FU,P78 FEE,Q5 FE,O133 FOO,O088 FO,O197 FUA,P01 Fk,O037 Nh,Q8 Nk,Q9 NUN,O117 ",
    "Nq,P69 Nl,P76 |,O041 u,O186 HU,O040 *E,P96 *,P42 HOO,O140 HO,O083 *EI,O128 HO%,O053 Hh,O130 ",
    "Hk,O087 HUN,P52 Hq,O193 Hl,O046 HUk,P90 NGGI,P43 NGGA,P82 NGGU,O115 NGGEE,P46 NGGE,P56 NGGOO",
    ",P20 NGGO,P59 NGGAA,P27 NGGUA,O086 LlG NGGE,O106 LlG NGGOO,P83 LlG NGGO,P55 GI,P11 GA,P68 GU",
    ",P90 GEE,P66 GUEI,Q7 GUk,P84 NGq,O057 NGl,O177 NGUk,O068 PI,P99 PA,P50 PU,P81 PEE,P51 PE,O10",
    "2 POO,O066 PO,O145 MBI,O062 MBA,O122 MBU,O047 MBEE,O188 MBEE,O072 MBE,O172 MBOO,Q4 MBO,P87 M",
    "BUU,P61 LlG MBE,P05 LlG MBOO,P42 LlG MBO,P32 KPI,O092 KPA,P74 KPU,P44 KPEE,O108 KPE,P12 KPOO",
    ",P58 KPO,P24 GBI,O056 GBA,O148 GBU,O093 GBEE,O107 GBE,O071 GBOO,Q0 GBO,O171 z,P23 N<,Q9 NDA,",
    "Q5 NDU,P91 NDEE,P19 NDE,O067 NDOO,Q4 NDO,O152 NJA,P92 NJU,P49 NJEE,P34 NJOO,P82 VI,Q5 VA,P51",
    " VU,P73 VEE,O085 VE,O144 VOO,O077 VO,O164 NYh,O058 NYk,O170 NYUN,O098 NYq,P60 NYl,=1E8C7,E<G",
    "IylE,KTWO,LHvE,KF%R,LIVE,K:X,LEVq,KEf,KNhE,ECOMBhhG NUMBj TEqS,XNS,VHUNDvDS,Vx%SkDS,Wq x%SkD",
    "S,VHUNDRox%SkDS,VMILLIlS,=1E900,0AD$M caeIF,LDAeI,L$AM,LMIIM,LBA,LShNYIIY*,LPE,LB*,Lz,LE,LFA",
    ",LI,LO,LDu,LY*,LWAW,LNUN,LKAF,LYA,LU,LJIIM,LC|,Lu,LQAAF,LGA,LNYA,LTU,LNu,LVA,LKu,LGBE,LZe,LK",
    "PO,LSu,6?eaeIF,JDAeI,J$AM,JMIIM,JBA,JShNYIIY*,JPE,JB*,Jz,JE,JFA,JI,JO,JDu,JY*,JWAW,JNUN,JKAF",
    ",JYA,JU,JJIIM,JC|,Ju,JQAAF,JGA,JNYA,JTU,JNu,JVA,JKu,JGBE,JZe,JKPO,JSu,6eIF iNGxqj,6VrEL iNGx",
    "qj,6GEMhAsl MdK,6uMZA,6ClSlkyMO<FIj,6GEMhATtClSlkyMO<FIj,6NUK&,7ASeIZAsl MdK,=1E950,6<GIyZjO",
    ",ClE,CTWO,DHvE,CF%R,DIVE,C:X,DEVq,CEf,CNhE,=1E95E,6hIse EXC$~sl MdK,EQUESsl MdK,=1EC71,0h<Cm",
    "IYAQ NUMBj lE,JTWO,KHvE,JF%R,KIVE,J:X,KEVq,JEf,JNhE,JTq,KWqTY,K|RTY,JF+TY,KIFTY,J:XTY,KEVqTY",
    ",JEfY,JNhETY,JltHUNDvD,JTWO HUNDvD,KHvtHUNDvD,JF%R HUNDvD,KIVtHUNDvD,J:X HUNDvD,KEVq HUNDvD,",
    "JEf HUNDvD,JNhtHUNDvD,Jltx%SkD,JTWO x%SkD,KHvtx%SkD,JF%R x%SkD,KIVtx%SkD,J:X x%SkD,KEVq x%Sk",
    "D,JEf x%SkD,JNhtx%SkD,JTq x%SkD,KWqTY x%SkD,K|RTY x%SkD,JF+TY x%SkD,KIFTY x%SkD,J:XTY x%SkD,",
    "KEVqTY x%SkD,JEfY x%SkD,JNhETY x%SkD,J$KH,Nk,C$KH MdK,CNUMBj Kd+,Ok,JPvFIXolE,STWO,THvE,SF%R",
    ",TIVE,S:X,TEVq,SEf,SNhE,CP$CEHOLDj,CFzCsl ltQUdTj,PHeF,LxvtQUdTjS,CRUPEtMdK,CNUMBj eTjNATtlE",
    ",TTWO,Uq x%SkD,CeTjNATt$KH MdK,=1ED01,0OTTOMkmIYAQ NUMBj lE,LTWO,MHvE,LF%R,MIVE,L:X,MEVq,LEf",
    ",LNhE,LTq,MWqTY,M|RTY,LF+TY,MIFTY,L:XTY,MEVqTY,LEfY,LNhETY,LltHUNDvD,LTWO HUNDvD,MHvtHUNDvD,",
    "LF%R HUNDvD,MIVtHUNDvD,L:X HUNDvD,MEVq HUNDvD,LEf HUNDvD,LNhtHUNDvD,Lltx%SkD,LTWO x%SkD,MHvt",
    "x%SkD,LF%R x%SkD,MIVtx%SkD,L:X x%SkD,MEVq x%SkD,LEf x%SkD,LNhtx%SkD,LTq x%SkD,MWqTY x%SkD,M|",
    "RTY x%SkD,LF+TY x%SkD,MIFTY x%SkD,L:XTY x%SkD,MEVqTY x%SkD,LEfY x%SkD,LNhETY x%SkD,EMdzTk,Ee",
    "TjNATtNUMBj TWO,WHvE,VF%R,WIVE,V:X,WEVq,VEf,VNhE,VTq,VF%R HUNDvD,V:X HUNDvD,VTWO x%SkD,Wq x%",
    "SkD,EFzCsl ltHeF,R:Xx,=1EE00,0dABIC ~xE~sCe eEF,KBEH,KJEEM,KDe,=1EE05,KWAW,KZAh,KuH,K&H,KYEH",
    ",KKAF,K$M,K_EM,KNOl,KSEq,KAh,KFEH,KSAD,KQAF,KvH,KS*q,KTEH,L*H,KKuH,Kxe,KDAD,KZAH,KGuh,KDOTiS",
    "!BEH,SNOl,SFEH,SQAF,=1EE21,KhIse BEH,SJEEM,=1EE24,S*H,=1EE27,TAH,=1EE29,SYEH,SKAF,S$M,S_EM,S",
    "NOl,SSEq,SAh,SFEH,SSAD,SQAF,=1EE34,SS*q,STEH,T*H,SKuH,=1EE39,SDAD,=1EE3B,SGuh,=1EE42,K&Ii.JE",
    "EM,=1EE47,RuH,=1EE49,RYEH,=1EE4B,R$M,=1EE4D,RNOl,RSEq,RAh,=1EE51,RSAD,RQAF,=1EE54,RS*q,=1EE5",
    "7,RKuH,=1EE59,RDAD,=1EE5B,RGuh,=1EE5D,RDOTiS!NOl,=1EE5F,ZQAF,=1EE61,KSTvTCHoBEH,UJEEM,=1EE64",
    ",U*H,=1EE67,VAH,U&H,UYEH,UKAF,=1EE6C,U_EM,UNOl,USEq,UAh,UFEH,USAD,UQAF,=1EE74,US*q,UTEH,V*H,",
    "UKuH,=1EE79,UDAD,UZAH,UGuh,UDOTiS!BEH,=1EE7E,cFEH,=1EE80,KLOOPoeEF,RBEH,RJEEM,RDe,R*H,RWAW,R",
    "ZAh,RuH,R&H,RYEH,=1EE8B,R$M,R_EM,RNOl,RSEq,RAh,RFEH,RSAD,RQAF,RvH,RS*q,RTEH,S*H,RKuH,Rxe,RDA",
    "D,RZAH,RGuh,=1EEA1,KD%Bi-STRUCK BEH,YJEEM,YDe,=1EEA5,YWAW,YZAh,YuH,Y&H,YYEH,=1EEAB,Y$M,Y_EM,",
    "YNOl,YSEq,YAh,YFEH,YSAD,YQAF,YvH,YS*q,YTEH,Z*H,YKuH,Yxe,YDAD,YZAH,YGuh,=1EEF0,KOPjAT+ _EMbuH",
    "b&TWEEL,TuHbDe,=1F000,0~HJlG si EASyWhD,DS%x WhD,DWESyWhD,DN+x WhD,DRoDzGl,DGvq DzGl,DW|TtDz",
    "Gl,DltOF CHdACTjS,DTWO OF CHdACTjS,EHvtOF CHdACTjS,DF%R OF CHdACTjS,EIVtOF CHdACTjS,D:X OF C",
    "HdACTjS,EEVq OF CHdACTjS,DEf OF CHdACTjS,DNhtOF CHdACTjS,DltOF BAMBOOS,DTWO OF BAMBOOS,EHvtO",
    "F BAMBOOS,DF%R OF BAMBOOS,EIVtOF BAMBOOS,D:X OF BAMBOOS,EEVq OF BAMBOOS,DEf OF BAMBOOS,DNhtO",
    "F BAMBOOS,DltOF ;iS,DTWO OF ;iS,EHvtOF ;iS,DF%R OF ;iS,EIVtOF ;iS,D:X OF ;iS,EEVq OF ;iS,DEf",
    " OF ;iS,DNhtOF ;iS,DPLUM,D+C|D,DBAMBOO,DCHRYSkxEMUM,DSPRhG,EUMMj,DAUTUMN,DWhTj,DJOKj,DBACK,=",
    "1F030,0DOMhO si H+IZlTe BACK,M-00-00,R1,R2,R3,R4,R5,R6,O1-00,R1,R2,R3,R4,R5,R6,O2-00,R1,R2,R",
    "3,R4,R5,R6,O3-00,R1,R2,R3,R4,R5,R6,O4-00,R1,R2,R3,R4,R5,R6,O5-00,R1,R2,R3,R4,R5,R6,O6-00,R1,",
    "R2,R3,R4,R5,R6,CVjsCe BACK,K-00-00,P1,P2,P3,P4,P5,P6,M1-00,P1,P2,P3,P4,P5,P6,M2-00,P1,P2,P3,",
    "P4,P5,P6,M3-00,P1,P2,P3,P4,P5,P6,M4-00,P1,P2,P3,P4,P5,P6,M5-00,P1,P2,P3,P4,P5,P6,M6-00,P1,P2",
    ",P3,P4,P5,P6,=1F0A0,0P$YhG Cd.BACK,DACtOFmPADES,DTWO OFmPADES,EHvtOFmPADES,DF%R OFmPADES,EIV",
    "tOFmPADES,D:X OFmPADES,EEVq OFmPADES,DEf OFmPADES,DNhtOFmPADES,DTq OFmPADES,DJACK OFmPADES,D",
    "KNf OFmPADES,DQUEq OFmPADES,DKhG OFmPADES,=1F0B1,DACtOF *dTS,DTWO OF *dTS,EHvtOF *dTS,DF%R O",
    "F *dTS,EIVtOF *dTS,D:X OF *dTS,EEVq OF *dTS,DEf OF *dTS,DNhtOF *dTS,DTq OF *dTS,DJACK OF *dT",
    "S,DKNf OF *dTS,DQUEq OF *dTS,DKhG OF *dTS,DRoJOKj,=1F0C1,DACtOF <AMlDS,DTWO OF <AMlDS,EHvtOF",
    " <AMlDS,DF%R OF <AMlDS,EIVtOF <AMlDS,D:X OF <AMlDS,EEVq OF <AMlDS,DEf OF <AMlDS,DNhtOF <AMlD",
    "S,DTq OF <AMlDS,DJACK OF <AMlDS,DKNf OF <AMlDS,DQUEq OF <AMlDS,DKhG OF <AMlDS,DB$CK JOKj,=1F",
    "0D1,DACtOF CLUBS,DTWO OF CLUBS,EHvtOF CLUBS,DF%R OF CLUBS,EIVtOF CLUBS,D:X OF CLUBS,EEVq OF ",
    "CLUBS,DEf OF CLUBS,DNhtOF CLUBS,DTq OF CLUBS,DJACK OF CLUBS,DKNf OF CLUBS,DQUEq OF CLUBS,DKh",
    "G OF CLUBS,DW|TtJOKj,DFOOL,DTRUMP-1,J2,J3,J4,J5,J6,J7,J8,J9,J10,K1,K2,K3,K4,K5,K6,K7,K8,K9,J",
    "20,K1,=1F100,0<GIyZjO FULLmTOP,BCOM~,6ltCOM~,6TWO COM~,7HvtCOM~,6F%R COM~,7IVtCOM~,6:X COM~,",
    "7EVq COM~,6Ef COM~,6NhtCOM~,2NGBAy;iDmkS-SjIF <GIyZjO,8NEGAsVt;iDmkS-SjIF <GIyZjO,0;i.ZjObS$",
    "SH,8ksCLOCKWIStdRr,8DOLLdmwbOVj$I.BACKS$SH,0PdqxE:Zo$Th caA,ZB,ZC,ZD,ZE,ZF,ZG,ZH,ZI,ZJ,ZK,ZL",
    ",ZM,ZN,ZO,ZP,ZQ,ZR,ZS,ZT,ZU,ZV,ZW,ZX,ZY,ZZ,0T+TOISEm*LL BzCKETo$Th caS,0;i.ITeIC $Th caC,aR,",
    "8CD,8WZ,1OPYiFTm>,0SQUdo$Th caA,TB,TC,TD,TE,TF,TG,TH,TI,TJ,TK,TL,TM,TN,TO,TP,TQ,TR,TS,TT,TU,",
    "TV,TW,TX,TY,TZ,8HV,8MV,8SD,9S,8PPV,8WC,0NEGAsVt;i.$Th caA,cB,cC,cD,cE,cF,cG,cH,cI,cJ,cK,cL,c",
    "M,cN,cO,cP,cQ,cR,cS,cT,cU,cV,cW,cX,cY,cZ,0zISoMCmw,8Dmw,8Rmw,0;i.CC,9bOVj$I.BACKS$SH,8HUMk F",
    "IGUv,0NEGAsVEmQUdo$Th caA,cB,cC,cD,cE,cF,cG,cH,cI,cJ,cK,cL,cM,cN,cO,cP,cQ,cR,cS,cT,cU,cV,cW,",
    "cX,cY,cZ,0C^SSoNEGAsVEmQUdo$Th caP,0NEGAsVEmQUdoIC,HPA,HSA,HAB,HWC,0SQUdtDJ,6.CL,9OOL,8FvE,8",
    "ID,8NEW,9G,8OK,8SOS,8UPbEXC$~sl MdK,8VS,8xvtD,8SEClDmCvq,8TWO K,8F%R K,8Ef K,8FIVtPOhylE,8SE",
    "Vq POhylE,8TWqTY-TWO POhyTWO,8:XTY P,8ltHUNDRoTWqTY P,8$ThmMeaD,8HC,9DR,9I-vS,8LOSSiSS,8SHV,",
    "8UHD,8VOD,0~SK W+Km>,=1F1E6,0vGIle h<CAT+mYMBOaA,XB,XC,XD,XE,XF,XG,XH,XI,XJ,XK,XL,XM,XN,XO,X",
    "P,XQ,XR,XS,XT,XU,XV,XW,XX,XY,XZ,0SQUdt|zGkA HOKA,6.KA&KkA KOKO,HSA,=1F210,8CJK UNIFIoIDEOGzP",
    "H-624B,U5B57,V3CC,8KA&KkA DE,8CJK UNIFIoIDEOGzPH-4E8C,U591A,U89E3,U5929,U4EA4,U6620,U7121,U6",
    "599,U524D,VF8C,V18D,U65B0,U521D,U7D42,V51F,U8CA9,U58F0,V439,U6F14,V295,V355,U4E00,X9,U904A,U",
    "5DE6,U4E2D,U53F3,U6307,U8D70,U6253,U7981,VA7A,U5408,U6E80,V709,X8,U7533,U5272,V5B6,U914D,=1F",
    "240,0T+TOISEm*LL BzCKEToCJK UNIFIoIDEOGzPH-672C,l4E09,n8C,l5B89,l70B9,l6253,l76D7,l52DD,l655",
    "7,=1F250,0;i.IDEOGzPH ADVk&GE,JCCEPT,=1F260,0R%NDEDm> F+ FU,JLU,JSH%,JXI,JSHUkGXI,JCAI,=1F30",
    "0,0CYCLlE,0FOGGY,0CLOSoUMBvL$,0NfbSTdS,0SUNRIStOVj M%N&hS,7,0CITYSCAPtAyDUSK,0SUNSEyOVj BUIL",
    "DhGS,0zhBr,0BRIDGtAyNf,0WATj WAVE,0VOLCkO,0MILKY WAY,0Edx GLOBtEU^PE-AFRICA,CAMjICAS,D:A-AUS",
    "TReIA,0GLOBEbMjI<kS,0NEW MOlm>,0WAXhG CvSCqyMOlm>,0FIRSyQUdTj MOlm>,0WAXhG GIBB%!MOlm>,0FULL",
    " MOlm>,0WkhG GIBB%!MOlm>,0$SyQUdTj MOlm>,0WkhG CvSCqyMOlm>,0CvSCqyMOl,0NEW MOlbFACE,0FIRSyQU",
    "dTj MOlbFACE,0$SyQUdTj MOlbFACE,0FULL MOlbFACE,0SUNbFACE,0GLrhGmTd,0SHOOThGmTd,0xjMO_Tj,0B$C",
    "K D^PiT,0W|TEmUN,9b?eL CL%D,ABEHh.CL%D,Mbzh,0CL%Dbzh,BSNr,BLfNhG,BT+NADO,0FOG,0Wh.BLrhG FACE",
    ",0HOyDOG,0&CO,0BURRITO,0C*STNUT,0SEEDLhG,0EVjGvq TvE,0DECIDU%!TvE,0PeM TvE,0CACTUS,0HOyPEPPj",
    ",0TULIP,0CHjRY BLOSSOM,0^SE,0|BISCUS,0SUNFLrj,0BLOSSOM,0Ed OF ~IZE,7RICE,0HjB,0F%R iAF CLOVj",
    ",0~Pi iAF,0FeiN iAF,0iAF FLUTTjhG h WhD,0MUSH^OM,0TO~TO,0AUBjGhE,0GzPES,0_Ll,0WATj_Ll,0TkGjh",
    "E,0iMl,0BkkA,0PhEAPPi,0RoAPPi,0Gvq APPi,0PEd,3CH,0CHjRIES,0STzWBjRY,0uMBURGj,0SLICtOF PIZZA,",
    "0_Ayl BlE,0P%LTRY iG,0RICtCzCKj,5BeL,0COOKoRICE,1URRY k.RICE,0STEAMhG BrL,1PAG*Ts,0BvAD,0FRq",
    "CH FRIES,0^ASTEDmWEEyPO&TO,0DkGO,0ODq,0SUS|,0FRIEDmHRIMP,1ISH CAKEbSWIRL DESw,0SOFyICtCvAM,1",
    "uVoICE,0ICtCvAM,0D%GHNUT,0COOKIE,1HOCO$TtBd,1kDY,0LOLLIPOP,0CUSTdD,0HlEY POT,0SH+TCAKE,0BqTO",
    " BOX,0POyOF FOOD,0COOKhG,0F+K k.KNIFE,0TEACUP WIx%yHkDi,0SAKtBOTTi k.CUP,0WhtG$SS,0COCK&IL G",
    "$SS,0T^PICe DRhK,0BEj MUG,0CLhKhG BEj MUGS,0BABY BOTTi,0F+K k.KNIFEbP$TE,0BOTTibPOPPhG C+K,0",
    "POPC+N,0RIBBl,0WzPPoPvSqT,0BIRxDAY CAKE,0JACK-O-LkTjN,0CHRIST~!TvE,0FAxj CHRIST~S,1IvW+KS,8m",
    "PdKiR,0BeLOl,0PdTY POPPj,0ClFETs BeL,0TkABA& TvE,0C^SSoF$GS,0PhtDECOzsl,0JAPkEStDOLLS,0CdPmT",
    "vAMj,0Wh.C|_,0MOl VIEWhG CjEMlY,0SCHOOLmATC*L,0GzDUAsl CAP,0*dTbsP l xtiFT,0B%QUEyOF FLrjS,0",
    "MILITdY _De,0vMhDj RIBBl,0MU:Ce KEYBOdDbJACKS,0STU<O MIC^PHlE,0iVELmLIDj,0ClT^L KNOBS,0BEAMo",
    "ASCqDhG MU:Ce NOTES,7DESCqDhG MU:Ce NOTES,0FILM Fz_S,0ADMIS:l sCKETS,0Cd%SEL H+SE,0FjRI!W*EL",
    ",0^LiR COASTj,0FISHhG POi k.FISH,0MIC^PHlE,1OVItCAMjA,0ChE~,0*ADPHlE,0dsSyPeETTE,0TOP uT,0;U",
    "!TqT,0sCKET,0C$PPj BOdD,0PjF+MhG dTS,0VIDEO GA_,0<vCy|T,0SLOy~CHhE,0BILLIdDS,0GAMt<E,0BrLhG,",
    "0FLrj P$YhG CdDS,0MU:Ce NOTE,2LsPi MU:Ce NOTES,0SAXOPHlE,0GUITd,0MU:Ce KEYBOdD,0TRUMPET,0VIO",
    "Lh,0MU:CemCOv,0RUNNhGm|RTbSASH,0TqNI!zCQUEyk.BeL,0SKI kDmKI BOOT,0BASKETBeL k.HOOP,0C*QUjoF$",
    "G,0SNrBOdDj,0RUNNj,0SURFj,1P+T!_De,0T^PHY,0H+StzChG,0AMjICk FOOTBeL,0RUGBY FOOTBeL,0SWIMMj,0",
    "WEf LIFTj,0GOLFj,0zChG MOT+CYCi,7Cd,0CRICKEyBAyk.BeL,0VOLiYBeL,0FIEL.HOCKEYmsCK k.BeL,0ICtHO",
    "CKEYmsCK k.PUCK,0&Bi TqNI!PADDi k.BeL,0SNr CAPPoM%N&h,0CAMPhG,0BEACHbUMBvL$,1UILDhG ClSTRUCs",
    "l,0H%StBUILDhGS,0CITYSCAPE,0DjELICyH%StBUILDhG,0C$S:Ce BUILDhG,0DESjT,6 ISLkD,0NAsle PdK,0S&",
    "<UM,0H%StBUILDhG,6WIx GdDq,0OFFICtBUILDhG,0JAPkEStPOSyOFFICE,0EU^PEk POSyOFFICE,0HOSPITe,0Bk",
    "K,0AUTO~ToTELiR ~CHhE,0HOTEL,0LOVtHOTEL,0ClVqIqCEmTOv,0SCHOOL,0DEPdTMqTmTOv,0FACT+Y,0IZAKAYA",
    " LkTjN,0JAPkEStCASTi,0EU^PEk CASTi,0W|TtPqNkT,0B$CK PqNkT,0WAVhG W|TtF$G,7B$CK F$G,0^SETTE,0",
    "B$CK ^SETTE,0$BEL,0BADMhTl zCQUEykDmHUTTiCOCK,1r k.dRr,0AMPHOz,0EMOJI MO<FIj FITZPATRICK TYP",
    "E-1-2,W3,W4,W5,W6,0zT,0M%SE,0OX,0WATj BUFFeO,0Cr,0sGj,0iOPdD,0zBBIT,0CAT,0DzGl,0C^CO<i,0WHeE",
    ",0SNAIL,3KE,0H+SE,0zM,0GOAT,0S*EP,0MlKEY,0^OSTj,0C|CKq,0DOG,0PIG,0BOd,0EiPHkT,0OCTOPUS,0SPIR",
    "em*LL,0BUG,0kT,0HlEYBEE,0$DY BEETi,0FISH,0T^PICe FISH,0BLrFISH,0TURTi,0uTCHhG C|CK,0BABY C|C",
    "K,0FRlT-FAChG BABY C|CK,0BIRD,0PqGUh,0KOeA,0POODi,0D^_DdY CA_L,0BACTRIk CA_L,0DOLPHh,0M%StFA",
    "CE,0Cr FACE,0sGj FACE,0zBBIyFACE,0CAyFACE,0DzGl FACE,0SP%ThG WHeE,0H+StFACE,0MlKEY FACE,0DOG",
    " FACE,0PIG FACE,0F^G FACE,0uMSTj FACE,0WOLF FACE,0BEd FACE,0PkDA FACE,1IG NOSE,1AW PRhTS,0C|",
    "PMUNK,0EYES,3,1d,0NOSE,0M%x,0TlGUE,0W|TtUP POhThG BACKHk.hDEX,6DrN POhThG BACKHk.hDEX,6iFyPO",
    "hThG BACKHk.hDEX,6Rf POhThG BACKHk.hDEX,0FISToHkDmw,0WAVhG HkDmw,0OK HkDmw,0xUMB!UPmw,7DrNmw",
    ",0C$PPhG HkDSmw,0OPq HkDSmw,0CRrN,0WOMk!uT,0EYEG$SSES,0NECKsE,0T-S|RT,0JEkS,0DvSS,0KIMlO,0BI",
    "KhI,0WOMk!CLOxES,0PURSE,0HkDBAG,0P%CH,0MkSmHOE,0AxisCmHOE,0|GH-*EiDmHOE,0WOMkSmkDe,7BOOTS,0F",
    "OOTPRhTS,0BUSyhmILH%ETTE,4!hmILH%ETTE,1OY,0GIRL,0Mk,0WOMk,0FAMILY,0Mk k.WOMk HOLDhG HkDS,0TW",
    "O Mq HOLDhG HkDS,4WOMq HOLDhG HkDS,0POLICtOFFICj,0WOMkbBUNNY EdS,0BRIDEbVEIL,0PjSlbBLl.uIR,0",
    "MkbGUA PI ~O,9TURBk,0OLDj Mk,6WOMk,0BABY,0ClSTRUCsl W+Kj,0PRhCESS,0JAPkEStOGv,9GOBLh,0GHOST,",
    "0BABY kGEL,0EXTzTjvSTRIe eIq,0eIq MlSTj,0IMP,0SKULL,0hF+~sl DESK PjSl,0GUdD?k,0DkCj,0LIPSsCK",
    ",0NAIL POLISH,0FACt~SSAGE,0uIRCUT,0BdBj POi,0SYRhGE,0PILL,0KIS!MdK,0LOVtiTTj,0RhG,0GEMmTlE,0",
    "KISS,0B%QUET,0C%Pib*dT,0WEDDhG,0BEAThG *dT,1^Kq *dT,0TWO *dTS,0SPdKLhG *dT,0GRrhG *dT,0*dTbd",
    "Rr,0BLUt*dT,0Gvq *dT,0YELLr *dT,0PURPi *dT,0*dTbRIBBl,0vVOLVhG *dTS,0*dyDECOzsl,0<AMlDmuPEbA",
    " DOyh:DE,0EiCTRIC Lf BULB,0kGjm>,0BOMB,0SiEPhGm>,0COLLI:lm>,0SP$SHhGmWEATm>,0D^PiT,1ASHm>,0P",
    "Ii OF POO,0FiXoBICEPS,0<ZZYm>,0SPEECH BeLOl,0x%GHyBeLOl,0W|TtFLrj,0HUNDRoPOhTSm>,0MlEY BAG,0",
    "CURRqCY EXCHkGE,0*AVY DOLLdmw,0Cv<yCdD,0BkKNOTEbYqmw,EDOLLdmw,EEU^mw,EP%NDmw,0MlEYbWhGS,0CHd",
    "TbUPWdD!TRq.k.Yqmw,0SEAT,0PjSle COMPUTj,0BRIEFCASE,0MhI<SC,0FLOPPY <SK,0OPsCe <SC,0DVD,0FIi ",
    "FOLDj,0OPq FIi FOLDj,0PAGEbCURL,5FAChG UP,0CeqDd,0TEd-OFF CeqDd,0Cd.hDEX,1HdTbUPWdD!TRqD,BDr",
    "NWdD!TRqD,0Bd CHdT,0CLIPBOdD,0PUSHPh,0R%N.PUSHPh,0PAPjCLIP,0STzf RUiR,0TRIkGULd RUiR,0BOOKMd",
    "K &BS,0iDGj,0NOTEBOOK,8bDECOzsVtCOVj,0CLOSoBOOK,0OPq BOOK,0Gvq BOOK,0BLUtBOOK,0+kGtBOOK,0BOO",
    "KS,0NAMtBADGE,0SC^LL,0_MO,0TEiPHltvCEIVj,0PAGj,0FAX ~CHhE,0SATELLITtkTqNA,0PUBLIC ADDvS!L%DS",
    "PEAKj,0C*jhG _GAPHlE,0%TBOX TzY,0hBOX TzY,0PACKAGE,0E-~ILm>,0hCOMhG qVELOPE,0qVELOPEbDrNWdD!",
    "dRrn,0CLOSo~ILBOXbLrjoF$G,KzISoF$G,0OPq ~ILBOXbzISoF$G,ILrjoF$G,0POSTBOX,4e H+N,0NEWSPAPj,0M",
    "OBIi PHlE,CbRfWdD!dRr AyiFT,0VIBzsl MODE,0MOBIi PHltOFF,0NO MOBIi PHlES,0kTqNAbBdS,0CAMjA,6b",
    "F$SH,0VIDEO CAMjA,0TEiVI:l,0z<O,0VIDEOCASSETTE,0FILM P^JECT+,0P+&BimTjEO,1zYj BEADS,0TWISToR",
    "fWdD!dRrS,0CLOCKWIStRfWdD!k.iFTWdD!OPq ;i dRrS,rb;i.ltOVj$Y,ADrNWdD!k.UPWdD!OPq ;i dRrS,0ksC",
    "LOCKWIStDrNWdD!k.UPWdD!OPq ;i dRrS,0Lr BRfNESSm>,0|GH BRfNESSm>,0SPEAKjbCkCEL$slmT^KE,7,7blE",
    "m%N.WAVE,DxvEm%N.WAVES,0BATTjY,0EiCTRIC PLUG,0iFT-POhThG ~GNIFYhG G$SS,0Rf-POhThG ~GNIFYhG G",
    "$SS,0LOCKbhK Pq,0CLOSoLOCKbKEY,0KEY,0LOCK,0OPq LOCK,0BELL,4bCkCEL$slmT^KE,1OOKMdK,0LhKm>,0z<",
    "O BUTTl,0BACKbiFTWdD!dRrn,0qDbiFTWdD!dRrn,0lbEXC$~sl MdKbiFyRf dRrn,0SOlbRfWdD!dRrn,0TOPbUPW",
    "dD!dRrn,0NO ltUNDj EfEqm>,0KEYCAP Tq,0hPUTm> F+ $Th cL iTTjS,N?eL iTTjS,HNUMBjS,HS>S,H$Th iT",
    "TjS,0FIv,0EiCTRIC T+CH,0WRqCH,0uMMj,0NUyk.BOLT,0HOCHO,0PISTOL,0MIC^SCOPE,0TEiSCOPE,0CRYSTe B",
    "eL,0:X POhTEDmTdbMIDDi DOT,0JAPkESEm> F+ BEGhNj,0TRIDqyEMBiM,0B$CKmQUdtBUTTl,0W|TEmQUdtBUTTl",
    ",0LdGtRo;i,6BLUt;i,6+kGt<AMlD,6BLUt<AMlD,0?eL +kGt<AMlD,6BLUt<AMlD,0UP-POhThG RoTRIkGi,0DrN-",
    "POhThG RoTRIkGi,0UP-POhThGmMeL RoTRIkGi,0DrN-POhThGmMeL RoTRIkGi,0Lrj RfmuDroW|Tt;i,0UPPj Rf",
    "muDroW|Tt;i,0;i.C^S!POM_E,1^S!POM_EbHeF-;i BELr,C,0NOTCHoiFTmEMI;ibxvtDOTS,8RfmEMI;ibxvtDOTS",
    ",0S> F+ MdK!CuPTj,0W|Tt$Th C^SS,0*AVY $Th C^SS,0CELsC C^SS,0OMm>,0DOVtOF PEACE,0KAABA,0MOSQU",
    "E,0SYNAGOGUE,0MqOzHbNhtBRkC*S,0BrL OF HYGIEIA,0CLOCK FACtltOCLOCK,BTWO OCLOCK,CHvtOCLOCK,BF%",
    "R OCLOCK,CIVtOCLOCK,B:X OCLOCK,CEVq OCLOCK,BEf OCLOCK,BNhtOCLOCK,BTq OCLOCK,BEiVq OCLOCK,BTW",
    "ELVtOCLOCK,BlE-xIRTY,BTWO-xIRTY,CHvE-xIRTY,BF%R-xIRTY,CIVE-xIRTY,B:X-xIRTY,CEVq-xIRTY,BEf-xI",
    "RTY,BNhE-xIRTY,BTq-xIRTY,BEiVq-xIRTY,BTWELVE-xIRTY,0RfmPEAKj,DblEm%N.WAVE,JxvEm%N.WAVES,0BUL",
    "LH+N,8bS%N.WAVES,0RhGhG BELL,0BOOK,0CkDi,0MkTELPIECtCLOCK,0B$CKmKULL k.C^SSBlES,0NO PIzCY,0H",
    "Oi,0Mk h BUShESSmUIyiVI&ThG,0SiUx +mPY,0DdKmUNG$SSES,0SPIDj,6 WEB,0JOYSsCK,0Mk DkChG,0iFyHk.",
    "TEiPHltvCEIVj,0TEiPHltvCEIVjbPAGE,0Rf Hk.TEiPHltvCEIVj,0W|TtT%CHTltTEiPHlE,0B$CK T%CHTltTEiP",
    "HlE,0TEiPHltl TOP OF MODEM,0C$MS*LL MOBIi PHlE,0BACK OF qVELOPE,0S&MPoqVELOPE,0qVELOPEbLfNhG",
    ",0FLYhG qVELOPE,0Pq OVjm&MPoqVELOPE,0LhKoPAPjCLIPS,0B$CK PUSHPh,0Lrj iFyPqCIL,BBeLPOhyPq,BF%",
    "N&h Pq,BPAhTBRUSH,BCzYl,1EFyWRIThG HkD,0TURNoOK HkDmw,0zISoHkDbFhGjSmP$YED,1EVjSozISoHkDbFhG",
    "jSmP$YED,9xUMB!UPmw,GDrNmw,9VICT+Y HkD,9HkDbMIDDi FhGj EXTqDED,1AISoHkDbPdyBETWEq MIDDi k.Rh",
    "G FhGjS,0W|TtDrN POhThG iFyHk.hDEX,0:DEWAY!W|TtiFyPOhThG hDEX,FRf POhThG hDEX,9B$CK iFyPOhTh",
    "G hDEX,FRf POhThG hDEX,0B$CK iFyPOhThG BACKHk.hDEX,6Rf POhThG BACKHk.hDEX,0:DEWAY!W|TtUP POh",
    "ThG hDEX,FDrN POhThG hDEX,9B$CK UP POhThG hDEX,FDrN POhThG hDEX,0B$CK UP POhThG BACKHk.hDEX,",
    "6DrN POhThG BACKHk.hDEX,6*dT,0DESKTOP COMPUTj,0KEYBOd.k.M%SE,0xvtNETW+KoCOMPUTjS,0PRhTj,1OCK",
    "EyCeCU$T+,0B$CK HdDm*LL FLOPPY <SK,0W|TtHdDm*LL FLOPPY <SK,0SOFTm*LL FLOPPY <SK,0&PtCdTRIDGE",
    ",0WIRoKEYBOdD,0ltBUTTl M%SE,0TWO BUTTl M%SE,1HvtBUTTl M%SE,1zCKBeL,0OL.PjSle COMPUTj,0Hd.<SK",
    ",0SCvq,0PRhTj ICl,0FAX ICl,0OPsCe <SC ICl,0DOCUMqTbTEXT,I k.PICTUv,EPICTUv,0Fz_bPICTUv,BsiS,",
    "Bk X,0B$CK FOLDj,0FOLDj,0OPq FOLDj,0Cd.hDEX <VIDjS,5FIi BOX,0FIi CABhET,0EMPTY NOTE,A PAGE,D",
    "D,0NOTE,4 PAGE,7D,0EMPTY DOCUMqT,6PAGE,AS,0DOCUMqT,0PAGE,4S,0WASTEBASKET,0SPIRe NOTtPAD,7Ceq",
    "Dd PAD,0DESKTOP WhDr,0MhIMIZE,1AXIMIZE,0OVj$P,0CLOCKWIStRf k.iFTmEMI;i dRrS,1kCEL$sl X,0hCvA",
    "StFlTmIZEm>,0DECvAStFlTmIZEm>,0COMPvS:l,0OL.KEY,0^LiD-UP NEWSPAPj,0PAGEb;i.TEXT,0STOCK CHdT,",
    "0DAGGj KNIFE,0LIPS,0SPEAKhG *A.hmILH%ETTE,0xvtzYSn,BBELr,BiFT,BRf,0iFTmPEECH BUBBi,0RfmPEECH",
    " BUBBi,0TWOmPEECH BUBBiS,1HvEmPEECH BUBBiS,0iFyx%GHyBUBBi,0Rf x%GHyBUBBi,0iFykGj BUBBi,0Rf k",
    "Gj BUBBi,0MOO.BUBBi,0LfNhG MOO.BUBBi,E,0BeLOyBOXbBeLOT,7SCRIPyX,7BOXbSCRIPyX,9LDmCRIPyX,9XbB",
    "OLDmCRIPyX,0Lf C*CK MdK,0BeLOyBOXbBOL.C*CK,0W+L.~P,0M%NyFUJI,0TOKYO Trj,0S&TUtOF LIBjTY,1ILH",
    "%ETTtOF JAPk,0MOYAI,0GRhNhG FACE,Db?ILhG EYES,0FACEbTEd!OF JOY,0?ILhG FACEbOPq M%x,S kDmMILh",
    "G EYES,XCOLDmWEAT,XTfLY-CLOSoEYES,IHeO,J+NS,0WhKhG FACE,0?ILhG FACEb?ILhG EYES,0FACEmAV%RhG ",
    "DELICI%!FOOD,0vLIEVoFACE,0?ILhG FACEb*dT-SuPoEYES,ISUNG$SSES,3RKhG FACE,0NEUTRe FACE,0EXPvS:",
    "liS!FACE,0UNAMUSoFACE,0FACEbCOLDmWEAT,0Pq:VtFACE,0ClFUSoFACE,4%NDoFACE,0KISShG FACE,0FACtxRr",
    "hG A KISS,0KISShG FACEb?ILhG EYES,ICLOSoEYES,0FACEbSTUCK-%yTlGUE,Q k.WhKhG EYE,VTfLY-CLOSoEY",
    "ES,0<SAPPOhToFACE,0W+RIoFACE,0kGRY FACE,0P%ThG FACE,0CRYhG FACE,0PjSEVjhG FACE,0FACEbLOOK OF",
    " TRIUMPH,0<SAPPOhToBUyvLIEVoFACE,0FRrNhG FACEbOPq M%x,0kGUISHoFACE,0FEdFUL FACE,0WEdY FACE,0",
    "SiEPY FACE,0sRoFACE,0GRI~ChG FACE,0L%DLY CRYhG FACE,0FACEbOPq M%x,0HUSHoFACE,0FACEbOPq M%x k",
    ".COLDmWEAT,5SCvAMhG h FEd,0ASTlISHoFACE,0FLUSHoFACE,0SiEPhG FACE,0<ZZY FACE,0FACtWIx%yM%x,9 ",
    "_<Ce ~SK,0GRhNhG CAyFACEb?ILhG EYES,0CAyFACEbTEd!OF JOY,0?ILhG CAyFACEbOPq M%x,M*dT-SuPoEYES",
    ",0CAyFACEbWRYmMIi,0KISShG CAyFACEbCLOSoEYES,0P%ThG CAyFACE,0CRYhG CAyFACE,0WEdY CAyFACE,0SLf",
    "LY FRrNhG FACE,9?ILhG FACE,0UP:DE-DrN FACE,0FACEb^LLhG EYES,ANO GOO.GESTUv,AOK GESTUv,0PjSl ",
    "BrhG DEEPLY,0SEE-NO-EVIL MlKEY,0*d-NO-EVIL MlKEY,0SPEAK-NO-EVIL MlKEY,0uPPY PjSl zIShG ltHkD",
    ",0PjSl zIShG BOx HkD!h CEiBzsl,7FRrNhG,7WIx P%ThG FACE,CFOLDoHkDS,0N+x WESyPOhThG iAF,0S%x W",
    "ESyPOhThG iAF,0N+x EASyPOhThG iAF,0S%x EASyPOhThG iAF,0TURNoN+x WESyPOhThG iAF,7S%x WESyPOhT",
    "hG iAF,7N+x EASyPOhThG iAF,7S%x EASyPOhThG iAF,0N+x WESyPOhThG VhtiAF,0S%x WESyPOhThG VhtiAF",
    ",0N+x EASyPOhThG VhtiAF,0S%x EASyPOhThG VhtiAF,0*AVY N+x WESyPOhThG VhtiAF,6S%x WESyPOhThG V",
    "htiAF,6N+x EASyPOhThG VhtiAF,6S%x EASyPOhThG VhtiAF,0N+x WESyPOhThG BUD,0S%x WESyPOhThG BUD,",
    "0N+x EASyPOhThG BUD,0S%x EASyPOhThG BUD,0*AVY N+x WESyPOhThG BUD,6S%x WESyPOhThG BUD,6N+x EA",
    "SyPOhThG BUD,6S%x EASyPOhThG BUD,1OLLr QUILTmQUdt+NAMqT,S h B$CKmQUdE,0SOLI.QUILTmQUdt+NAMqT",
    ",R h B$CKmQUdE,0iFTWdD!^CKET,0UPWdD!^CKET,0RfWdD!^CKET,0DrNWdD!^CKET,0SCRIPyLIGATURtEy+NAMqT",
    ",0*AVYmCRIPyLIGATURtEy+NAMqT,0LIGATURtOPq Ey+NAMqT,0*AVY LIGATURtOPq Ey+NAMqT,6AMPjSk.+NAMqT",
    ",0SWASH AMPjSk.+NAMqT,1kS-SjIF *AVY D%Bi TURNoCOM~ QUO&sl MdK +NAMqT,OCOM~ QUO&sl MdK +NAMqT",
    ",HLr D%Bi COM~ QUO&sl MdK +NAMqT,0*AVY hTj^BkG +NAMqT,0SkS-SjIF hTj^BkG +NAMqT,0*AVYmkS-SjIF",
    " hTj^BkG +NAMqT,0VjY *AVYmOLIDUS,BvVjSEmOLIDUS,0C*CKj BOdD,0vVjStC*CKj BOdD,1OCKET,0*LICOPTj",
    ",0STEAM LOCOMOsVE,0zILWAY Cd,0|GH-SPEoTzh,GbBULiyNOSE,0Tzh,0_T^,0Lf zIL,0S&sl,0TzM,4 Cd,0BUS",
    ",0lCOMhG BUS,0T^LiYBUS,0BUSmTOP,0MhIBUS,0AMBULkCE,0FIRtqGhE,0POLICtCd,0lCOMhG POLICtCd,0&XI,",
    "0lCOMhG &XI,0AUTOMOBIi,0lCOMhG AUTOMOBIi,0vCvAsle VE|Ci,0DELIVjY TRUCK,0dsCU$ToL+RY,0TzCT+,0",
    "MlOzIL,2UN&h zILWAY,0SUSPq:l zILWAY,0M%N&h CABiWAY,0AjIe TzMWAY,0S|P,0RrBOAT,0SPEEDBOAT,0H+I",
    "ZlTe TzFFIC Lf,0VjsCe TzFFIC Lf,0ClSTRUCslmw,0POLICtCd!vVOLVhG Lf,0TRIkGULd F$G l POST,0DO+,",
    "0NO qTRYmw,0?OKhGm>,0NOmMOKhGm>,0PUyLITTj h IT!P$CEm>,0DO NOyLITTjm>,0PO&Bi WATjm>,0Nl-PO&Bi",
    " WATjm>,0BICYCi,0NO BICYCiS,0BICYCLIST,0M%N&h BICYCLIST,0PEDESTRIk,0NO PEDESTRIkS,0C|LDRq C^",
    "SShG,0MqSm>,0WOMqSm>,0vST^OM,0BABYm>,0TOIiT,0WATj CLOSET,0SHrj,0BAx,4TUB,0PASSP+yClT^L,0CUST",
    "OMS,0BAGGAGtC$IM,0iFyLUGGAGE,0TRIkGibR%NDoC+NjS,0P^|BITEDmw,0;i.hF+~slm%RCE,0BOYSm>,0GIRLSm>",
    ",0C%CH k.$MP,0SiEPhG ACCOMMODAsl,1HOPPhG BAGS,0BELLHOP BELL,2D,0P$CtOF W+S|P,0OC&Glemw,0SHOP",
    "PhG T^LiY,1TUPA,0PAGODA,0HhDU TEMPi,1UT,0EiVAT+,=1F6DD,0P$YGR%NDmLIDE,0W*EL,0RhG BUOY,0uMMj ",
    "k.WRqCH,0S|ELD,0OIL DRUM,0MOT+WAY,0zILWAY TzCK,0MOT+ BOAT,0UP-POhThG MILITdY AIRPLkE,CAIRPLk",
    "E,C?eL AIRPLkE,0?eL AIRPLkE,0N+xEAST-POhThG AIRPLkE,0AIRPLktDEPdTUv,9dRIVhG,=1F6F0,0SATELLIT",
    "E,0lCOMhG FIRtqGhE,0<ESEL LOCOMOsVE,0PASSqGjm|P,0SCOOTj,0MOT+mCOOTj,0CkOE,0SiD,0FLYhGmAUCj,0",
    "SKATEBOdD,0AUTO RICKSuW,0PICKUP TRUCK,0^LiRmKATE,=1F700,0eC*MICem> F+ QUhTESSqCE,MAIR,MFIv,M",
    "Edx,MWATj,MAQUAF+sS,Q vGIA,W-2,RVI&E,W-2,MVhEGd,T-2,U3,MSULFUR,MP|LOSOPHjSmULFUR,MB$CKmULFUR",
    ",MMjCURYmUBLI~TE,d-2,e3,MChNABd,MSeT,MNITv,MVITRIOL,T-2,M^CKmeT,V-2,MGOLD,M:LVj,MIRl Ov,U-2,",
    "MC^CU!OF IRl,MvGULU!OF IRl,MCOPPj Ov,MIRl-COPPj Ov,MSUBLI~TtOF COPPj,MC^CU!OF COPPj,c-2,NOPP",
    "j ksMlIATE,MSeyOF COPPj ksMlIATE,NUBLI~TtOFmeyOF COPPj,MVj<GRIS,MTh Ov,MiA.Ov,MksMlY Ov,MSUB",
    "LI~TtOF ksMlY,NeyOF ksMlY,NUBLI~TtOFmeyOF ksMlY,MVhEGd OF ksMlY,MvGULU!OF ksMlY,f-2,T,T-2,U3",
    ",U4,MeKeI,S-2,MMdCA:TE,MSe-AMMlIAC,MdSqIC,MveGd,T-2,MAURIPIGMqT,MBI?Ux Ov,MTdTd,S-2,MQUICK L",
    "I_,MBOzX,R-2,S3,MeUM,MOIL,MSPIRIT,MThCTUv,MGUM,MWAX,MPrDj,MCeX,MTUTTY,MCAPUyM+TUUM,MSCEPTj O",
    "F JOVE,MCADUCEUS,MTRIDqT,MSTdRoTRIDqT,MLODESTlE,MSOAP,MURhE,MH+StDUNG,MAS*S,MPOyAS*S,MBRICK,",
    "MPrDjoBRICK,MAMeGAM,MSTzTUMmUPjmTzTUM,h-2,NUBLI~sl,MPvCIPI&TE,M<SsLL,PSOLVE,U-2,MPURIFY,OTvF",
    "ACsl,MCRUCIBi,U-2,V3,V4,V5,MeEMBIC,MBAx OF MdY,UVAP%RS,MvT+T,MH%R,MNf,MDAY-Nf,MMlx,MHeF DzM,",
    "R%NCE,=1F780,0B$CK iFT-POhThG ISOSCEi!Rf TRIkGi,6UP-POhThG ISOSCEi!Rf TRIkGi,6Rf-POhThG ISOS",
    "CEi!Rf TRIkGi,6DrN-POhThG ISOSCEi!Rf TRIkGi,6SLfLYmMeL ;i,0_<UM BOL.W|Tt;i,0BOL.W|Tt;i,0*AVY",
    " W|Tt;i,0VjY *AVY W|Tt;i,0EXTv_LY *AVY W|Tt;i,0W|Tt;i Cl&hhG B$CKmMeL ;i,0R%N.TdGET,0B$CK Th",
    "YmQUdE,6SLfLYmMeLmQUdE,0Lf W|TEmQUdE,0_<UM W|TEmQUdE,0BOL.W|TEmQUdE,0*AVY W|TEmQUdE,0VjY *AV",
    "Y W|TEmQUdE,0EXTv_LY *AVY W|TEmQUdE,0W|TEmQUdtCl&hhG B$CK VjYmMeLmQUdE,U_<UMmQUdE,0SQUdtTdGE",
    "T,0B$CK ThY <AMlD,6VjYmMeL <AMlD,6_<UMmMeL <AMlD,0W|Tt<AMl.Cl&hhG B$CK VjYmMeL <AMlD,V_<UM <",
    "AMlD,0<AMl.TdGET,0B$CK ThY LOZqGE,6VjYmMeL LOZqGE,6_<UMmMeL LOZqGE,0W|TtLOZqGtCl&hhG B$CKmMe",
    "L LOZqGE,0xh GvEK C^SS,0Lf GvEK C^SS,0_<UM GvEK C^SS,0BOL.GvEK C^SS,0VjY BOL.GvEK C^SS,5*AVY",
    " GvEK C^SS,0EXTv_LY *AVY GvEK C^SS,0xhmesv,0Lfmesv,0_<UMmesv,0BOLDmesv,0*AVYmesv,0VjY *AVYme",
    "sv,0EXTv_LY *AVYmesv,0Lf FIVEmPOKoASTjISK,0_<UM FIVEmPOKoASTjISK,0BOL.FIVEmPOKoASTjISK,0*AVY",
    " FIVEmPOKoASTjISK,0VjY *AVY FIVEmPOKoASTjISK,0EXTv_LY *AVY FIVEmPOKoASTjISK,0LfmIXmPOKoASTjI",
    "SK,0_<UMmIXmPOKoASTjISK,0BOLDmIXmPOKoASTjISK,0*AVYmIXmPOKoASTjISK,0VjY *AVYmIXmPOKoASTjISK,0",
    "EXTv_LY *AVYmIXmPOKoASTjISK,0Lf EfmPOKoASTjISK,0_<UM EfmPOKoASTjISK,0BOL.EfmPOKoASTjISK,0*AV",
    "Y EfmPOKoASTjISK,0VjY *AVY EfmPOKoASTjISK,0Lf xvtPOhToB$CKmTd,0_<UM xvtPOhToB$CKmTd,0xvtPOhT",
    "oB$CKmTd,0_<UM xvtPOhToPhW*ELmTd,0Lf F%R POhToB$CKmTd,0_<UM F%R POhToB$CKmTd,0F%R POhToB$CKm",
    "Td,0_<UM F%R POhToPhW*ELmTd,0vVjStLf F%R POhToPhW*ELmTd,0Lf FIVtPOhToB$CKmTd,0*AVY FIVtPOhTo",
    "B$CKmTd,0_<UMmIX POhToB$CKmTd,0*AVYmIX POhToB$CKmTd,0:X POhToPhW*ELmTd,0_<UM Ef POhToB$CKmTd",
    ",0*AVY Ef POhToB$CKmTd,0VjY *AVY Ef POhToB$CKmTd,0*AVY Ef POhToPhW*ELmTd,0Lf TWELVtPOhToB$CK",
    "mTd,0*AVY TWELVtPOhToB$CKmTd,LPhW*ELmTd,0;i.TRIkGi,0NEGAsVt;i.TRIkGi,0;iDmQUdE,0NEGAsVt;iDmQ",
    "UdE,=1F7E0,0LdGt+kGt;i,6YELLr ;i,6Gvq ;i,6PURPi ;i,6BRrN ;i,6vDmQUdE,6BLUEmQUdE,6+kGEmQUdE,6",
    "YELLrmQUdE,6GvqmQUdE,6PURPimQUdE,6BRrNmQUdE,=1F7F0,0*AVY EQUeSmw,=1F800,0iFTWdD!dRrb?eL TRIk",
    "Gi dRr*AD,0UPWdD!dRrb?eL TRIkGi dRr*AD,0RfWdD!dRrb?eL TRIkGi dRr*AD,0DrNWdD!dRrb?eL TRIkGi d",
    "Rr*AD,0iFTWdD!dRrb_<UM TRIkGi dRr*AD,0UPWdD!dRrb_<UM TRIkGi dRr*AD,0RfWdD!dRrb_<UM TRIkGi dR",
    "r*AD,0DrNWdD!dRrb_<UM TRIkGi dRr*AD,0iFTWdD!dRrbLdGtTRIkGi dRr*AD,0UPWdD!dRrbLdGtTRIkGi dRr*",
    "AD,0RfWdD!dRrbLdGtTRIkGi dRr*AD,0DrNWdD!dRrbLdGtTRIkGi dRr*AD,=1F810,0iFTWdD!dRrb?eL EQUI$Tj",
    "e dRr*AD,0UPWdD!dRrb?eL EQUI$Tje dRr*AD,0RfWdD!dRrb?eL EQUI$Tje dRr*AD,0DrNWdD!dRrb?eL EQUI$",
    "Tje dRr*AD,0iFTWdD!dRrbEQUI$Tje dRr*AD,0UPWdD!dRrbEQUI$Tje dRr*AD,0RfWdD!dRrbEQUI$Tje dRr*AD",
    ",0DrNWdD!dRrbEQUI$Tje dRr*AD,0*AVY iFTWdD!dRrbEQUI$Tje dRr*AD,6UPWdD!dRrbEQUI$Tje dRr*AD,6Rf",
    "WdD!dRrbEQUI$Tje dRr*AD,6DrNWdD!dRrbEQUI$Tje dRr*AD,6iFTWdD!dRrbLdGtEQUI$Tje dRr*AD,6UPWdD!d",
    "RrbLdGtEQUI$Tje dRr*AD,6RfWdD!dRrbLdGtEQUI$Tje dRr*AD,6DrNWdD!dRrbLdGtEQUI$Tje dRr*AD,0iFTWd",
    "D!TRIkGi-*ADodRrbNdRrmuFT,0UPWdD!TRIkGi-*ADodRrbNdRrmuFT,0RfWdD!TRIkGi-*ADodRrbNdRrmuFT,0DrN",
    "WdD!TRIkGi-*ADodRrbNdRrmuFT,0iFTWdD!TRIkGi-*ADodRrb_<UMmuFT,0UPWdD!TRIkGi-*ADodRrb_<UMmuFT,0",
    "RfWdD!TRIkGi-*ADodRrb_<UMmuFT,0DrNWdD!TRIkGi-*ADodRrb_<UMmuFT,0iFTWdD!TRIkGi-*ADodRrbBOLDmuF",
    "T,0UPWdD!TRIkGi-*ADodRrbBOLDmuFT,0RfWdD!TRIkGi-*ADodRrbBOLDmuFT,0DrNWdD!TRIkGi-*ADodRrbBOLDm",
    "uFT,0iFTWdD!TRIkGi-*ADodRrb*AVYmuFT,0UPWdD!TRIkGi-*ADodRrb*AVYmuFT,0RfWdD!TRIkGi-*ADodRrb*AV",
    "YmuFT,0DrNWdD!TRIkGi-*ADodRrb*AVYmuFT,0iFTWdD!TRIkGi-*ADodRrbVjY *AVYmuFT,0UPWdD!TRIkGi-*ADo",
    "dRrbVjY *AVYmuFT,0RfWdD!TRIkGi-*ADodRrbVjY *AVYmuFT,0DrNWdD!TRIkGi-*ADodRrbVjY *AVYmuFT,0iFT",
    "WdD!FhGj-POSydRr,0UPWdD!FhGj-POSydRr,0RfWdD!FhGj-POSydRr,0DrNWdD!FhGj-POSydRr,0iFTWdDSmQUdod",
    "Rr,0UPWdDSmQUdodRr,0RfWdDSmQUdodRr,0DrNWdDSmQUdodRr,0iFTWdD!COMPvSSodRr,0UPWdD!COMPvSSodRr,0",
    "RfWdD!COMPvSSodRr,0DrNWdD!COMPvSSodRr,0iFTWdD!*AVY COMPvSSodRr,0UPWdD!*AVY COMPvSSodRr,0RfWd",
    "D!*AVY COMPvSSodRr,0DrNWdD!*AVY COMPvSSodRr,0iFTWdD!*AVY dRr,0UPWdD!*AVY dRr,0RfWdD!*AVY dRr",
    ",0DrNWdD!*AVY dRr,=1F850,0iFTWdDSmkS-SjIF dRr,0UPWdDSmkS-SjIF dRr,0RfWdDSmkS-SjIF dRr,0DrNWd",
    "DSmkS-SjIF dRr,0N+x WESTmkS-SjIF dRr,6EASTmkS-SjIF dRr,0S%x EASTmkS-SjIF dRr,6WESTmkS-SjIF d",
    "Rr,0iFyRfmkS-SjIF dRr,0UP DrNmkS-SjIF dRr,=1F860,0WIDE-*ADoiFTWdD!Lf BdB dRr,CUPWdD!Lf BdB d",
    "Rr,CRfWdD!Lf BdB dRr,CDrNWdD!Lf BdB dRr,CN+x WESyLf BdB dRr,IEASyLf BdB dRr,CS%x EASyLf BdB ",
    "dRr,IWESyLf BdB dRr,CiFTWdD!BdB dRr,CUPWdD!BdB dRr,CRfWdD!BdB dRr,CDrNWdD!BdB dRr,CN+x WESyB",
    "dB dRr,IEASyBdB dRr,CS%x EASyBdB dRr,IWESyBdB dRr,CiFTWdD!_<UM BdB dRr,CUPWdD!_<UM BdB dRr,C",
    "RfWdD!_<UM BdB dRr,CDrNWdD!_<UM BdB dRr,CN+x WESy_<UM BdB dRr,IEASy_<UM BdB dRr,CS%x EASy_<U",
    "M BdB dRr,IWESy_<UM BdB dRr,CiFTWdD!*AVY BdB dRr,CUPWdD!*AVY BdB dRr,CRfWdD!*AVY BdB dRr,CDr",
    "NWdD!*AVY BdB dRr,CN+x WESy*AVY BdB dRr,IEASy*AVY BdB dRr,CS%x EASy*AVY BdB dRr,IWESy*AVY Bd",
    "B dRr,CiFTWdD!VjY *AVY BdB dRr,CUPWdD!VjY *AVY BdB dRr,CRfWdD!VjY *AVY BdB dRr,CDrNWdD!VjY *",
    "AVY BdB dRr,CN+x WESyVjY *AVY BdB dRr,IEASyVjY *AVY BdB dRr,CS%x EASyVjY *AVY BdB dRr,IWESyV",
    "jY *AVY BdB dRr,=1F890,0iFTWdD!TRIkGi dRr*AD,0UPWdD!TRIkGi dRr*AD,0RfWdD!TRIkGi dRr*AD,0DrNW",
    "dD!TRIkGi dRr*AD,0iFTWdD!W|TtdRr WIxh TRIkGi dRr*AD,0UPWdD!W|TtdRr WIxh TRIkGi dRr*AD,0RfWdD",
    "!W|TtdRr WIxh TRIkGi dRr*AD,0DrNWdD!W|TtdRr WIxh TRIkGi dRr*AD,0iFTWdD!dRrbNOTCHo&IL,0UPWdD!",
    "dRrbNOTCHo&IL,0RfWdD!dRrbNOTCHo&IL,0DrNWdD!dRrbNOTCHo&IL,0*AVY dRrmuFyWIDx lE,OTWO xIRDS,Olt",
    "HeF,SxIRD,0iFTWdD!BOTTOM-SuDoW|TtdRr,0RfWdD!BOTTOMmuDoW|TtdRr,0iFTWdD!TOPmuDoW|TtdRr,0RfWdD!",
    "TOPmuDoW|TtdRr,0iFTWdD!iFT-SuDoW|TtdRr,0RfWdD!Rf-SuDoW|TtdRr,0iFTWdD!Rf-SuDoW|TtdRr,0RfWdD!i",
    "FT-SuDoW|TtdRr,0iFTWdD!BACK-sLTEDmuDroW|TtdRr,0RfWdD!BACK-sLTEDmuDroW|TtdRr,0iFTWdD!FRlT-sLT",
    "EDmuDroW|TtdRr,0RfWdD!FRlT-sLTEDmuDroW|TtdRr,0W|TtdRrmuFyWIDx lE,OTWO xIRDS,=1F8B0,0dRr POhT",
    "hG UPWdD!xq N+x WEST,FRfWdD!xq CURVhGm%x WEST,=1F900,0;i.C^SSgEEbF%R DOTS,QTWO DOTS,K,0iFyHe",
    "F ;ibF%R DOTS,MxvtDOTS,NWO DOTS,MDOT,G,0DrNWd.FAChG HOOK,GNOTCHoHOOK,GHOOKbDOT,GNOTCHoHOOKbD",
    "OT,0PhCHoFhGjS,0W|Tt*dT,0BRrN *dT,0PhCHhG HkD,0ZIPPj-M%x FACE,0MlEY-M%x FACE,0FACEbxjMO_Tj,0",
    "Nj.FACE,0xhKhG FACE,0FACEb*AD-BkDAGE,0^BOyFACE,0HUGGhG FACE,0Sw OF xtH+NS,0CeL MtHkD,0zISoBA",
    "CK OF HkD,0iFT-FAChG FIST,0Rf-FAChG FIST,0HkDSuKE,4bhDEX k.MIDDi FhGj!C^SSED,0I LOVtY% HkDmw",
    ",0FACEbCrBOY uT,0CLrN FACE,0NAUSEAToFACE,0^LLhG l xtFLO+ $UGHhG,0D^OLhG FACE,0LYhG FACE,0FAC",
    "tPeM,0SNEEZhG FACE,0FACEbltEYEBRr zISED,0GRhNhG FACEbSTd EYES,JltLdGtk.lEmMeL EYE,0FACEbFhGj",
    " COVjhG CLOSoLIPS,0SjI%!FACEbS>!COVjhG M%x,1MILhG FACEb?ILhG EYE!k.Hk.COVjhG M%x,0FACEbOPq M",
    "%x VOMIThG,0SHOCKoFACEbEXPLODhG *AD,0PvGNkyWOMk,0BvAST-FEEDhG,0PeM!UP TOGExj,0SELFIE,0PRhCE,",
    "0Mk h TUXEDO,1Oxj CHRIST~S,0SHRUG,0PjSl DOhG CdTW*EL,0JUGGLhG,0FqCj,0MODjN Pq&xLl,0WvSTiRS,1",
    "ATj POLO,0HkDBeL,0<VhG ~SK,0WILToFLrj,0DRUMbDRUMSsCKS,0CLhKhG G$SSES,0TUMBiR G$SS,0SPOl,0GOe",
    " NET,0RIFi,0FIRSyP$Ct_De,0SECl.P$Ct_De,0xIR.P$Ct_De,0BOXhG GLOVE,0Mdse dT!UNIF+M,0CURLhGmTlE",
    ",0$C^SSEmsCK k.BeL,0SOFTBeL,0FLYhG <SC,0C^ISSkT,0AVOCADO,0CUCUMBj,0BACl,0PO&TO,0Cd^T,0BAGUET",
    "TtBvAD,0GvqmeAD,0SHeLr Pk OF FOOD,1TUFFoF$TBvAD,0EGG,0G$S!OF MILK,0PEkUTS,0KIWIFRUIT,0PkCAKE",
    "S,0DUMPLhG,0F+TUNtCOOKIE,0&KE%yBOX,0CHOPSsCKS,0BrLbSPOl,0CUPbSTzW,1OClUT,0B^CCOLI,0PIE,1vTZE",
    "L,0CUyOF _AT,0SkDWICH,0CkNoFOOD,0iAFY Gvq,0MkGO,1Ol CAKE,0BAGEL,0?ILhG FACEb?ILhG EYE!k.xvt*",
    "dTS,0YAWNhG FACE,0?ILhG FACEbTEd,0FACEbPdTY H+N k.PdTY uT,AUNEVq EYE!k.WAVY M%x,0OVj*AToFACE",
    ",0FvEZhG FACE,0NhJA,0<SGUISoFACE,0FACtHOLDhG BACK TEdS,5WIx PiADhG EYES,0SdI,0$B COAT,0GOGGi",
    "S,0|KhG BOOT,0F$TmHOE,0CzB,0LIl FACE,0SC+PIl,0TURKEY,0UNIC+N FACE,0EAGi,0DUCK,0BAT,0SHdK,0rL",
    ",0FOX FACE,0BUTTjFLY,0DEj,0G+IL$,0LIZdD,0RHhOCjOS,0SHRIMP,1QUID,0GIzFFtFACE,0ZEBz FACE,0*DGE",
    "HOG,0SAU^POD,0T-vX,0CRICKET,0KkGdOO,0L$~,0PEACOCK,0|PPOPO&MUS,0Pd^T,0zCCOl,0LOBSTj,0MOSQUITO",
    ",1IC^BE,0BADGj,0SWk,0~MMOx,0DODO,0SLOx,0OTTj,1RkGUTk,0SKUNK,0F$MhGO,0OYSTj,0BEAVj,1ISl,0SEe,",
    "0GUIDtDOG,0P^BhG CkE,0EMOJI COMPlqyRouIR,GCURLY uIR,GBeD,GW|TtuIR,0BlE,0iG,0FOOT,0TOOx,0SUPj",
    "HjO,5VIL$h,1AFETY VEST,0Edb*dhG AID,0MOT+IZoW*ELCuIR,1kUe W*ELCuIR,1ECHkICe dM,BiG,0C*EStWED",
    "GE,1UPCAKE,0SeTmuKj,0BEVjAGtBOX,0GdLIC,0lIl,0FeAFEL,0WAFFi,0BUTTj,0~TtDRhK,0ICtCUBE,0BUBBi T",
    "EA,0T^LL,0STkDhG PjSl,0KNEELhG PjSl,0DEAF PjSl,0FACEbMlOCi,0ADULT,0C|LD,0OLDj ADULT,0BEdDoPj",
    "Sl,0PjSlb*ADSCdF,7hmTEAMY ^OM,7CLIMBhG,7h LOTU!PO:sl,0~GE,0FAIRY,0VAMPIv,0MjPjSl,0ELF,0GqIE,",
    "0ZOMBIE,0Bzh,0+kGt*dT,0BILi.CAP,0SCdF,0GLOVES,0COAT,0SOCKS,0RoGIFyqVELOPE,0FIvCzCKj,0JIGSAW ",
    "PUZZi PIECE,0TESyTUBE,0PETRI <SH,0DNA D%Bi *LIX,0COMPASS,0ABACUS,0FIRtEXThGUISHj,0TOOLBOX,0B",
    "RICK,0~GNET,0LUGGAGE,1Osl BOTTi,0SPOOL OF xvAD,0BeL OF YdN,0SAFETY Ph,0TEDDY BEd,0B^OM,1ASKE",
    "T,0^LL OF PAPj,0Bd OFmOAP,0SPlGE,0vCEIPT,0NAZd AMUiT,1EUTRe C*S!KhG,EQUEq,E^OK,EBISHOP,EKNf,",
    "EPAWN,0W|TtC*S!KNf ^&ToF+TY-FIVtDEGvES,0B$CK C*S!KNf ^&ToF+TY-FIVtDEGvES,0NEUTRe C*S!KNf ^&T",
    "oF+TY-FIVtDEGvES,0W|TtC*S!KhG ^&ToNhETY DEGvES,CQUEq ^&ToNhETY DEGvES,C^OK ^&ToNhETY DEGvES,",
    "CBISHOP ^&ToNhETY DEGvES,CKNf ^&ToNhETY DEGvES,CPAWN ^&ToNhETY DEGvES,0B$CK C*S!KhG ^&ToNhET",
    "Y DEGvES,CQUEq ^&ToNhETY DEGvES,C^OK ^&ToNhETY DEGvES,CBISHOP ^&ToNhETY DEGvES,CKNf ^&ToNhET",
    "Y DEGvES,CPAWN ^&ToNhETY DEGvES,0NEUTRe C*S!KhG ^&ToNhETY DEGvES,EQUEq ^&ToNhETY DEGvES,E^OK",
    " ^&ToNhETY DEGvES,EBISHOP ^&ToNhETY DEGvES,EKNf ^&ToNhETY DEGvES,EPAWN ^&ToNhETY DEGvES,0W|T",
    "tC*S!KNf ^&ToltHUNDRoxIRTY-FIVtDEGvES,0B$CK C*S!KNf ^&ToltHUNDRoxIRTY-FIVtDEGvES,0NEUTRe C*S",
    "!KNf ^&ToltHUNDRoxIRTY-FIVtDEGvES,0W|TtC*S!TURNoKhG,JQUEq,J^OK,JBISHOP,JKNf,JPAWN,0B$CK C*S!",
    "TURNoKhG,JQUEq,J^OK,JBISHOP,JKNf,JPAWN,0NEUTRe C*S!TURNoKhG,LQUEq,L^OK,LBISHOP,LKNf,LPAWN,0W",
    "|TtC*S!KNf ^&ToTWO HUNDRoTWqTY-FIVtDEGvES,0B$CK C*S!KNf ^&ToTWO HUNDRoTWqTY-FIVtDEGvES,0NEUT",
    "Re C*S!KNf ^&ToTWO HUNDRoTWqTY-FIVtDEGvES,0W|TtC*S!KhG ^&ToTWO HUNDvDmEVqTY DEGvES,CQUEq ^&T",
    "oTWO HUNDvDmEVqTY DEGvES,C^OK ^&ToTWO HUNDvDmEVqTY DEGvES,CBISHOP ^&ToTWO HUNDvDmEVqTY DEGvE",
    "S,CKNf ^&ToTWO HUNDvDmEVqTY DEGvES,CPAWN ^&ToTWO HUNDvDmEVqTY DEGvES,0B$CK C*S!KhG ^&ToTWO H",
    "UNDvDmEVqTY DEGvES,CQUEq ^&ToTWO HUNDvDmEVqTY DEGvES,C^OK ^&ToTWO HUNDvDmEVqTY DEGvES,CBISHO",
    "P ^&ToTWO HUNDvDmEVqTY DEGvES,CKNf ^&ToTWO HUNDvDmEVqTY DEGvES,CPAWN ^&ToTWO HUNDvDmEVqTY DE",
    "GvES,0NEUTRe C*S!KhG ^&ToTWO HUNDvDmEVqTY DEGvES,EQUEq ^&ToTWO HUNDvDmEVqTY DEGvES,E^OK ^&To",
    "TWO HUNDvDmEVqTY DEGvES,EBISHOP ^&ToTWO HUNDvDmEVqTY DEGvES,EKNf ^&ToTWO HUNDvDmEVqTY DEGvES",
    ",EPAWN ^&ToTWO HUNDvDmEVqTY DEGvES,0W|TtC*S!KNf ^&ToxvtHUNDRoFIFTEq DEGvES,0B$CK C*S!KNf ^&T",
    "oxvtHUNDRoFIFTEq DEGvES,0NEUTRe C*S!KNf ^&ToxvtHUNDRoFIFTEq DEGvES,0W|TtC*S!EQUIHOPPj,0B$CK ",
    "C*S!EQUIHOPPj,0NEUTRe C*S!EQUIHOPPj,0W|TtC*S!EQUIHOPPj ^&ToNhETY DEGvES,0B$CK C*S!EQUIHOPPj ",
    "^&ToNhETY DEGvES,0NEUTRe C*S!EQUIHOPPj ^&ToNhETY DEGvES,0W|TtC*S!KNf-QUEq,J^OK,JBISHOP,0B$CK",
    " C*S!KNf-QUEq,J^OK,JBISHOP,=1FA60,0XIkGQI RoGqje,CMkDdh,CEiPHkT,CH+SE,CCHdIOT,DkNl,CSOL<j,8B",
    "$CK Gqje,EMkDdh,EEiPHkT,EH+SE,ECHdIOT,FkNl,ESOL<j,=1FA70,0BeiTmHOES,0lE-PIECEmWIMSUIT,0BRIEF",
    "S,0SH+TS,0xlGmkDe,=1FA78,0D^P OF BLOOD,0AD*:VtBkDAGE,0STExOSCOPE,0X-zY,0CRUTCH,=1FA80,0YO-YO",
    ",0KITE,0PdACHUTE,0BOOMjkG,0~GIC WkD,0PhA&,0NESThG DOLLS,=1FA90,0RhGoPLkET,0CuIR,0zZ+,0AXE,0<",
    "YA $MP,0BkJO,0MILITdY *L_T,0ACC+<l,0LlG DRUM,0COh,1dPqTRYmAW,0SCvWDRIVj,0$DDj,0HOOK,0MIRR+,0",
    "WhDr,0PLUNGj,0SEWhG NEEDi,0KNOT,0BUCKET,0M%StTzP,0TOOxBRUSH,0*ADSTlE,0P$CdD,0^CK,0MIRR+ BeL,",
    "0IDqsFICAsl CdD,0Lr BATTjY,0uMSA,=1FAB0,0FLY,0W+M,0BEETi,0COCK^ACH,0POTToPLkT,0WOOD,0FEAxj,0",
    "LOTUS,0C+e,0EMPTY NEST,0NESTbEGGS,=1FAC0,0kATOMICe *dT,0LUNGS,0PEOPi HUGGhG,1vGNkyMk,9PjSl,1",
    "jSlbCRrN,=1FAD0,0BLUEBjRIES,1ELL PEPPj,0OLIVE,0F$TBvAD,0&MeE,0FlDUE,0TEAPOT,0P%RhG LIQUID,0B",
    "EkS,0Jd,=1FAE0,0_LThG FACE,0SeUThG FACE,0FACEbOPq EYE!k.Hk.OVj M%x,APEEKhG EYE,A<AGle M%x,0D",
    "OTToLhtFACE,0BIThG LIP,1UBBiS,=1FAF0,0HkDbhDEX FhGj k.xUMB C^SSED,0RfWdD!HkD,0iFTWdD!HkD,0Pe",
    "M DrN HkD,5UP HkD,0hDEX POhThG AyxtVIEWj,0*dyHkDS,=1FB00,0BLOCKmEXTkT-1,E2,E12,E3,E13,E23,E1",
    "23,E4,E14,E24,E124,E34,E134,E234,E1234,E5,E15,E25,E125,E35,E235,E1235,E45,E145,E245,E1245,E3",
    "45,E1345,E2345,E12345,E6,E16,E26,E126,E36,E136,E236,E1236,E46,E146,F246,E346,E1346,E2346,E12",
    "346,E56,E156,E256,E1256,E356,E1356,E2356,E12356,E456,E1456,E2456,E12456,E3456,E13456,E23456,",
    "0Lrj iFyBLOCK <AGle Lrj MIDDi iFyTO Lrj CqTv,rRf,QUPPj MIDDi iFyTO Lrj CqTv,rRf,WiFyTO Lrj C",
    "qTv,6Rf BLOCK <AGle UPPj MIDDi iFyTO UPPj CqTv,sRf,RLrj MIDDi iFyTO UPPj CqTv,sRf,XiFyTO UPP",
    "j CqTv,XMIDDi iFyTO UPPj MIDDi Rf,XCqTRtTO Lrj MIDDi Rf,XiFyTO Lrj MIDDi Rf,XCqTRtTO UPPj MI",
    "DDi Rf,XiFyTO UPPj MIDDi Rf,XCqTRtTO UPPj Rf,6iFyBLOCK <AGle UPPj CqTRtTO UPPj MIDDi Rf,WiFy",
    "TO UPPj MIDDi Rf,WCqTRtTO Lrj MIDDi Rf,WiFyTO Lrj MIDDi Rf,WCqTRtTO Lrj Rf,WMIDDi iFyTO Lrj ",
    "MIDDi Rf,0UPPj Rf BLOCK <AGle Lrj MIDDi iFyTO Lrj CqTv,sRf,RUPPj MIDDi iFyTO Lrj CqTv,sRf,Xi",
    "FyTO Lrj CqTv,6iFyBLOCK <AGle UPPj MIDDi iFyTO UPPj CqTv,rRf,QLrj MIDDi iFyTO UPPj CqTv,rRf,",
    "WiFyTO UPPj CqTv,WMIDDi iFyTO UPPj MIDDi Rf,WCqTRtTO Lrj MIDDi Rf,WiFyTO Lrj MIDDi Rf,WCqTRt",
    "TO UPPj MIDDi Rf,WiFyTO UPPj MIDDi Rf,WCqTRtTO UPPj Rf,6Rf BLOCK <AGle UPPj CqTRtTO UPPj MID",
    "Di Rf,XiFyTO UPPj MIDDi Rf,XCqTRtTO Lrj MIDDi Rf,XiFyTO Lrj MIDDi Rf,XCqTRtTO Lrj Rf,XMIDDi ",
    "iFyTO Lrj MIDDi Rf,6k.Rf k.Lrj TRIkGULd xvtQUdTj!BLOCK,0iFyk.Lrj k.Rf TRIkGULd xvtQUdTj!BLOC",
    "K,0UPPj k.iFyk.Lrj TRIkGULd xvtQUdTj!BLOCK,0iFyk.UPPj k.Rf TRIkGULd xvtQUdTj!BLOCK,5TRIkGULd",
    " ltQUdTj BLOCK,0UPPj TRIkGULd ltQUdTj BLOCK,0Rf TRIkGULd ltQUdTj BLOCK,0Lrj TRIkGULd ltQUdTj",
    " BLOCK,0VjsCe ltEfH BLOCK-2,Q3,Q4,Q5,Q6,Q7,0H+IZlTe ltEfH BLOCK-2,S3,S4,S5,S6,S7,0iFyk.Lrj l",
    "tEfH BLOCK,9UPPj ltEfH BLOCK,0Rf k.UPPj ltEfH BLOCK,ALrj ltEfH BLOCK,0UPPj k.Lrj ltEfH BLOCK",
    ",0H+IZlTe ltEfH BLOCK-1358,0UPPj ltQUdTj BLOCK,6xvtEfH!BLOCK,6FIVtEfH!BLOCK,6xvtQUdTj!BLOCK,",
    "6SEVq EfH!BLOCK,0Rf ltQUdTj BLOCK,6xvtEfH!BLOCK,6FIVtEfH!BLOCK,6xvtQUdTj!BLOCK,6SEVq EfH!BLO",
    "CK,0iFyHeF _<UMmuDE,0Rf HeF _<UMmuDE,0UPPj HeF _<UMmuDE,0Lrj HeF _<UMmuDE,0hVjSt_<UMmuDE,0UP",
    "Pj HeF BLOCK k.Lrj HeF hVjSt_<UMmuDE,BhVjSt_<UMmuDtk.Lrj HeF BLOCK,=1FB94,0iFyHeF hVjSt_<UMm",
    "uDtk.Rf HeF BLOCK,0C*CKj BOd.FILL,0hVjStC*CKj BOd.FILL,0*AVY H+IZlTe FILL,0UPPj iFyTO Lrj Rf",
    " FILL,6Rf TO Lrj iFyFILL,6k.Lrj TRIkGULd HeF BLOCK,0iFyk.Rf TRIkGULd HeF BLOCK,0UPPj iFyTRIk",
    "GULd _<UMmuDE,6Rf TRIkGULd _<UMmuDE,0Lrj Rf TRIkGULd _<UMmuDE,6iFyTRIkGULd _<UMmuDE,0BOX DzW",
    "hG!Lf <AGle UPPj CqTRtTO MIDDi iFT,pRf,SMIDDi iFyTO Lrj CqTv,ZRf TO Lrj CqTv,SUPPj CqTRtTO M",
    "IDDi iFyTO Lrj CqTv,pRf TO Lrj CqTv,SMIDDi iFyTO Lrj CqTRtTO MIDDi Rf,hUPPj CqTRtTO MIDDi Rf",
    ",SUPPj CqTRtTO MIDDi iFyk.MIDDi Rf TO Lrj CqTv,pRf k.MIDDi iFyTO Lrj CqTv,vTO Lrj CqTRtTO MI",
    "DDi iFT,piFyTO Lrj CqTRtTO MIDDi Rf,SMIDDi iFyTO UPPj CqTRtTO MIDDi Rf TO Lrj CqTv,ZRf TO UP",
    "Pj CqTRtTO MIDDi iFyTO Lrj CqTv,S<AMlD,JH+IZlTebVjsCemT^KE,0dRr*AD-SuPoPOhTj,0hVjStC*CK MdK,",
    "0iFyHeF RUNNhG Mk,0Rf HeF RUNNhG Mk,0hVjStDrNWdD!dRrbsP iFTWdDS,0iFTWdD!dRr k.UPPj k.Lrj ltE",
    "fH BLOCK,0RfWdD!dRr k.UPPj k.Lrj ltEfH BLOCK,0DrNWdD!dRr k.Rf ltEfH BLOCK,0UPWdD!dRr k.Rf lt",
    "EfH BLOCK,0iFyHeF FOLDj,0Rf HeF FOLDj,0VOIDoGvEK C^SS,0Rf OPqmQUdoDOT,0NEGAsVt<AGle C^SS,IMI",
    "DDi Rf TO Lrj CqTv,I<AMlD,0W|Tt*AVYmesvbR%NDoC+NjS,0iFyxIR.W|TtRf POhThG hDEX,0MIDDi xIR.W|T",
    "tRf POhThG hDEX,0Rf xIR.W|TtRf POhThG hDEX,0NEGAsVEmQUdoQUESsl MdK,0SsCK FIGUv,CbdM!zISED,Di",
    "khG iFT,LRf,DWIx DvSS,0W|TtUP-POhThG C*VRl,=1FBF0,0SEGMqTo<GIyZjO,GlE,GTWO,HHvE,GF%R,HIVE,G:",
    "X,HEVq,GEf,GNhE,=E0001,0LkGUAGt&G,=E0020,0&GmPACE,4EXC$~sl MdK,4QUO&sl MdK,4NUMBjmw,4DOLLdmw",
    ",4PjCqTmw,4AMPjSkD,5POST^P*,4iFyPdqxE:S,4Rf PdqxE:S,4ASTjISK,4PLUSmw,4COM~,4HYPHq-MhUS,4FULL",
    "mTOP,4SOLIDUS,4<GIyZjO,AlE,ATWO,BHvE,AF%R,BIVE,A:X,BEVq,AEf,ANhE,4COLl,4SEMICOLl,4iSS-xkmw,4",
    "EQUeSmw,4GvATj-xkmw,4QUESsl MdK,4COMMjCIe AT,4$Th caA,PB,PC,PD,PE,PF,PG,PH,PI,PJ,PK,PL,PM,PN",
    ",PO,PP,PQ,PR,PS,PT,PU,PV,PW,PX,PY,PZ,5EFTmQUdtBzCKET,4vVjSEmOLIDUS,5fmQUdtBzCKET,4;UMFiX ACC",
    "qT,4Lr LhE,4GzVtACCqT,4$ThmMeaA,NB,NC,ND,NE,NF,NG,NH,NI,NJ,NK,NL,NM,NN,NO,NP,NQ,NR,NS,NT,NU,",
    "NV,NW,NX,NY,NZ,5EFyCURLY BzCKET,4VjsCe LhE,4Rf CURLY BzCKET,4sLDE,0CkCEL &G,=E0100,0VdIAslmE",
    "iCT+-17,K8,K9,J20,K1,K2,K3,K4,K5,K6,K7,K8,K9,J30,K1,K2,K3,K4,K5,K6,K7,K8,K9,J40,K1,K2,K3,K4,",
    "K5,K6,K7,K8,K9,J50,K1,K2,K3,K4,K5,K6,K7,K8,K9,J60,K1,K2,K3,K4,K5,K6,K7,K8,K9,J70,K1,K2,K3,K4",
    ",K5,K6,K7,K8,K9,J80,K1,K2,K3,K4,K5,K6,K7,K8,K9,J90,K1,K2,K3,K4,K5,K6,K7,K8,K9,J100,L1,L2,L3,",
    "L4,L5,L6,L7,L8,L9,K10,L1,L2,L3,L4,L5,L6,L7,L8,L9,K20,L1,L2,L3,L4,L5,L6,L7,L8,L9,K30,L1,L2,L3",
    ",L4,L5,L6,L7,L8,L9,K40,L1,L2,L3,L4,L5,L6,L7,L8,L9,K50,L1,L2,L3,L4,L5,L6,L7,L8,L9,K60,L1,L2,L",
    "3,L4,L5,L6,L7,L8,L9,K70,L1,L2,L3,L4,L5,L6,L7,L8,L9,K80,L1,L2,L3,L4,L5,L6,L7,L8,L9,K90,L1,L2,",
    "L3,L4,L5,L6,L7,L8,L9,J200,L1,L2,L3,L4,L5,L6,L7,L8,L9,K10,L1,L2,L3,L4,L5,L6,L7,L8,L9,K20,L1,L",
    "2,L3,L4,L5,L6,L7,L8,L9,K30,L1,L2,L3,L4,L5,L6,L7,L8,L9,K40,L1,L2,L3,L4,L5,L6,L7,L8,L9,K50,L1,",
    "L2,L3,L4,L5,L6,"]

end CharName

end Marginalia
