/-!
# Names of characters from 0x20 to 0x1dff

The names of Unicode 14 in the packed form that `CharName.seek` reads.
-/

namespace Marginalia

namespace CharName

/-- The packed names of these characters. -/
def part1 : List String :=
  ["=20,0SPACE,0EXC$~sl MdK,0QUO&sl MdK,0NUMBjmw,0DOLLdmw,0PjCqTmw,0AMPjSkD,1POST^P*,0iFyPdqxE:S",
    ",0Rf PdqxE:S,0ASTjISK,0PLUSmw,0COM~,0HYPHq-MhUS,0FULLmTOP,0SOLIDUS,0<GIyZjO,6lE,6TWO,7HvE,6F",
    "%R,7IVE,6:X,7EVq,6Ef,6NhE,0COLl,0SEMICOLl,0iSS-xkmw,0EQUeSmw,0GvATj-xkmw,0QUESsl MdK,0COMMjC",
    "Ie AT,0$Th caA,LB,LC,LD,LE,LF,LG,LH,LI,LJ,LK,LL,LM,LN,LO,LP,LQ,LR,LS,LT,LU,LV,LW,LX,LY,LZ,1E",
    "FTmQUdtBzCKET,0vVjSEmOLIDUS,1fmQUdtBzCKET,0;UMFiX ACCqT,0Lr LhE,0GzVtACCqT,0$ThmMeaA,JB,JC,J",
    "D,JE,JF,JG,JH,JI,JJ,JK,JL,JM,JN,JO,JP,JQ,JR,JS,JT,JU,JV,JW,JX,JY,JZ,1EFyCURLY BzCKET,0VjsCe ",
    "LhE,0Rf CURLY BzCKET,0sLDE,=A0,0NO-BvAKmPACE,0hVjToEXC$~sl MdK,0CqTmw,0P%NDmw,0CURRqCYmw,0Yq",
    "mw,0B^Kq Bd,0SECslmw,0<AjE:S,0COPYRfmw,0FEMhht+Dhe h<CAT+,0iFT-POhThG D%Bi kGi QUO&sl MdK,0N",
    "OTmw,0SOFyHYPHq,0vGISTjEDmw,0~CRl,0DEGvEmw,0PLUS-MhUSmw,0SUPjSCRIPyTWO,DHvE,0ACUTtACCqT,0MIC",
    "^mw,0PILCRrmw,0MIDDi DOT,0CE<L$,0SUPjSCRIPylE,0~SCULht+Dhe h<CAT+,0Rf-POhThG D%Bi kGi QUO&sl",
    " MdK,0VULGd FzCsl ltQUdTj,KHeF,GxvtQUdTjS,0hVjToQUESsl MdK,0$Th caAbGzVE,SACUTE,S;UMFiX,SsLD",
    "E,S<AjE:S,SRhGn,ME,LCbCE<L$,LEbGzVE,SACUTE,S;UMFiX,S<AjE:S,LIbGzVE,SACUTE,S;UMFiX,S<AjE:S,LE",
    "x,LNbsLDE,LObGzVE,SACUTE,S;UMFiX,SsLDE,S<AjE:S,0MULsPLICAslmw,0$Th caObST^KE,LUbGzVE,SACUTE,",
    "S;UMFiX,S<AjE:S,LYbACUTE,Lx+N,6?eaSHdPm,JAbGzVE,QACUTE,Q;UMFiX,QsLDE,Q<AjE:S,QRhGn,KE,JCbCE<",
    "L$,JEbGzVE,QACUTE,Q;UMFiX,Q<AjE:S,JIbGzVE,QACUTE,Q;UMFiX,Q<AjE:S,JEx,JNbsLDE,JObGzVE,QACUTE,",
    "Q;UMFiX,QsLDE,Q<AjE:S,0<VI:lmw,0$ThmMeaObST^KE,JUbGzVE,QACUTE,Q;UMFiX,Q<AjE:S,JYbACUTE,Jx+N,",
    "JYb<AjE:S,6caAb~CRl,6?eaAb~CRl,6caAbBvVE,6?eaAbBvVE,6caAbOGlEK,6?eaAbOGlEK,6caCbACUTE,6?eaCb",
    "ACUTE,6caCb;UMFiX,6?eaCb;UMFiX,6caCbDOTn,6?eaCbDOTn,6caCbCdl,6?eaCbCdl,6caDbCdl,6?eaDbCdl,6c",
    "aDbST^KE,6?eaDbST^KE,6caEb~CRl,6?eaEb~CRl,6caEbBvVE,6?eaEbBvVE,6caEbDOTn,6?eaEbDOTn,6caEbOGl",
    "EK,6?eaEbOGlEK,6caEbCdl,6?eaEbCdl,6caGb;UMFiX,6?eaGb;UMFiX,6caGbBvVE,6?eaGbBvVE,6caGbDOTn,6?",
    "eaGbDOTn,6caGbCE<L$,6?eaGbCE<L$,6caHb;UMFiX,6?eaHb;UMFiX,6caHbST^KE,6?eaHbST^KE,6caIbsLDE,6?",
    "eaIbsLDE,6caIb~CRl,6?eaIb~CRl,6caIbBvVE,6?eaIbBvVE,6caIbOGlEK,6?eaIbOGlEK,6caIbDOTn,6?eaDOTi",
    "S!I,6cL LIGATURtIJ,6?eL LIGATURtIJ,6caJb;UMFiX,6?eaJb;UMFiX,6caKbCE<L$,6?eaKbCE<L$,Kz,6caLbA",
    "CUTE,6?eaLbACUTE,6caLbCE<L$,6?eaLbCE<L$,6caLbCdl,6?eaLbCdl,6caLbMIDDi DOT,6?eaLbMIDDi DOT,6c",
    "aLbST^KE,6?eaLbST^KE,6caNbACUTE,6?eaNbACUTE,6caNbCE<L$,6?eaNbCE<L$,6caNbCdl,6?eaNbCdl,LPvCED",
    "oBY APOST^P*,6caqG,6?eaqG,6caOb~CRl,6?eaOb~CRl,6caObBvVE,6?eaObBvVE,6caObD%Bi ACUTE,6?eaObD%",
    "Bi ACUTE,6cL LIGATURtOE,6?eL LIGATURtOE,6caRbACUTE,6?eaRbACUTE,6caRbCE<L$,6?eaRbCE<L$,6caRbC",
    "dl,6?eaRbCdl,6caSbACUTE,6?eaSbACUTE,6caSb;UMFiX,6?eaSb;UMFiX,6caSbCE<L$,6?eaSbCE<L$,6caSbCdl",
    ",6?eaSbCdl,6caTbCE<L$,6?eaTbCE<L$,6caTbCdl,6?eaTbCdl,6caTbST^KE,6?eaTbST^KE,6caUbsLDE,6?eaUb",
    "sLDE,6caUb~CRl,6?eaUb~CRl,6caUbBvVE,6?eaUbBvVE,6caUbRhGn,6?eaUbRhGn,6caUbD%Bi ACUTE,6?eaUbD%",
    "Bi ACUTE,6caUbOGlEK,6?eaUbOGlEK,6caWb;UMFiX,6?eaWb;UMFiX,6caYb;UMFiX,6?eaYb;UMFiX,6caYb<AjE:",
    "S,LZbACUTE,6?eaZbACUTE,6caZbDOTn,6?eaZbDOTn,6caZbCdl,6?eaZbCdl,JLlGm,JBbST^KE,6caBbHOOK,STOP",
    "Bd,6?eaBbTOPBd,6caTlEmIX,6?eaTlEmIX,6caOPq O,LCbHOOK,6?eaCbHOOK,6caAFRICk D,LDbHOOK,STOPBd,6",
    "?eaDbTOPBd,JTURNoDEL&,6cavVjSoE,LSCHWA,LOPq E,LFbHOOK,6?eaFbHOOK,6caGbHOOK,MAM~,6?eaHV,6caIO",
    "&,MbST^KE,LKbHOOK,6?eaKbHOOK,JLbBd,KAMBDAbST^KE,6caTURNoM,LNbiFyHOOK,6?eaNbLlG Rf iG,6caObMI",
    "DDi sLDE,SH+N,6?eaObH+N,6caOI,6?eaOI,6caPbHOOK,6?eaPbHOOK,6iTTj YR,6caTltTWO,6?eaTltTWO,6caE",
    "SH,6iTTj vVjSoESH LOOP,6?eaTbPeATe HOOK,6caTbHOOK,6?eaTbHOOK,6caTbvT^FiX HOOK,LUbH+N,6?eaUbH",
    "+N,6caUP:Ll,LVbHOOK,LYbHOOK,6?eaYbHOOK,6caZbST^KE,6?eaZbST^KE,6caEZH,O vVjSED,6?eaEZH vVjSED",
    ",NWIx &IL,6iTTj TWObST^KE,6caTltFIVE,6?eaTltFIVE,6iTTj hVjToGLOTTemTOPbST^KE,DWYNN,DDqTe CLI",
    "CK,D$Tje CLICK,DeVEOLd CLICK,DvT^FiX CLICK,6caDZbCdl,Mb?eaZbCdl,6?eaDZbCdl,6caLJ,Mb?eaJ,6?ea",
    "LJ,6caNJ,Mb?eaJ,6?eaNJ,6caAbCdl,6?eaAbCdl,6caIbCdl,6?eaIbCdl,6caObCdl,6?eaObCdl,6caUbCdl,6?e",
    "aUbCdl,6caUb<AjE:!k.~CRl,6?eaUb<AjE:!k.~CRl,6caUb<AjE:!k.ACUTE,6?eaUb<AjE:!k.ACUTE,6caUb<AjE",
    ":!k.Cdl,6?eaUb<AjE:!k.Cdl,6caUb<AjE:!k.GzVE,6?eaUb<AjE:!k.GzVE,JTURNoE,6caAb<AjE:!k.~CRl,6?e",
    "aAb<AjE:!k.~CRl,6caAbDOTn k.~CRl,6?eaAbDOTn k.~CRl,6caAEb~CRl,6?eaAEb~CRl,6caGbST^KE,6?eaGbS",
    "T^KE,6caGbCdl,6?eaGbCdl,6caKbCdl,6?eaKbCdl,6caObOGlEK,6?eaObOGlEK,6caObOGlEK k.~CRl,6?eaObOG",
    "lEK k.~CRl,6caEZHbCdl,6?eaEZHbCdl,JJbCdl,6caDZ,Mb?eaZ,6?eaDZ,6caGbACUTE,6?eaGbACUTE,6caHWAIR",
    ",LWYNN,LNbGzVE,6?eaNbGzVE,6caAbRhGn k.ACUTE,6?eaAbRhGn k.ACUTE,6caAEbACUTE,6?eaAEbACUTE,6caO",
    "bST^Ktk.ACUTE,6?eaObST^Ktk.ACUTE,6caAbD%Bi GzVE,6?eaAbD%Bi GzVE,6caAbhVjToBvVE,6?eaAbhVjToBv",
    "VE,6caEbD%Bi GzVE,6?eaEbD%Bi GzVE,6caEbhVjToBvVE,6?eaEbhVjToBvVE,6caIbD%Bi GzVE,6?eaIbD%Bi G",
    "zVE,6caIbhVjToBvVE,6?eaIbhVjToBvVE,6caObD%Bi GzVE,6?eaObD%Bi GzVE,6caObhVjToBvVE,6?eaObhVjTo",
    "BvVE,6caRbD%Bi GzVE,6?eaRbD%Bi GzVE,6caRbhVjToBvVE,6?eaRbhVjToBvVE,6caUbD%Bi GzVE,6?eaUbD%Bi",
    " GzVE,6caUbhVjToBvVE,6?eaUbhVjToBvVE,6caSbCOM~ BELr,6?eaSbCOM~ BELr,6caTbCOM~ BELr,6?eaTbCOM",
    "~ BELr,6caYOGH,6?eaYOGH,6caHbCdl,6?eaHbCdl,6caNbLlG Rf iG,6?eaDbCURL,6ca%,6?ea%,6caZbHOOK,6?",
    "eaZbHOOK,6caAbDOTn,6?eaAbDOTn,6caEbCE<L$,6?eaEbCE<L$,6caOb<AjE:!k.~CRl,6?eaOb<AjE:!k.~CRl,6c",
    "aObsLDtk.~CRl,6?eaObsLDtk.~CRl,6caObDOTn,6?eaObDOTn,6caObDOTn k.~CRl,6?eaObDOTn k.~CRl,6caYb",
    "~CRl,6?eaYb~CRl,JLbCURL,JNbCURL,JTbCURL,JDOTiS!J,KB <GzPH,JQP <GzPH,6caAbST^KE,LCbST^KE,6?ea",
    "CbST^KE,6caLbBd,LTb<AGlemT^KE,6?eaSbSWASH &IL,JZbSWASH &IL,6caGLOTTemTOP,6?eaGLOTTemTOP,6caB",
    "bST^KE,LU Bd,LTURNoV,LEbST^KE,6?eaEbST^KE,6caJbST^KE,6?eaJbST^KE,6ca?eL QbHOOK &IL,6?eaQbHOO",
    "K &IL,6caRbST^KE,6?eaRbST^KE,6caYbST^KE,6?eaYbST^KE,JTURNoA,JePu,JTURNoePu,JBbHOOK,JOPq O,JC",
    "bCURL,JDb&IL,QHOOK,JvVjSoE,JSCHWA,ObHOOK,JOPq E,JvVjSoOPq E,YbHOOK,JCLOSovVjSoOPq E,JDOTiS!J",
    "bST^KE,JGbHOOK,JSCRIPyG,6iTTjmMeL cL G,6?eaGAM~,JzM!H+N,JTURNoH,JHbHOOK,KqGbHOOK,JIbST^KE,KO",
    "&,6iTTjmMeL cL I,6?eaLbMIDDi sLDE,QBELT,QvT^FiX HOOK,KEZH,JTURNoM,RbLlG iG,JMbHOOK,JNbiFyHOO",
    "K,QvT^FiX HOOK,6iTTjmMeL cL N,6?eaBdRoO,6iTTjmMeL cL OE,6?eaCLOSoO_GA,JP|,JTURNoR,RbLlG iG,X",
    "HOOK,JRbLlG iG,Q&IL,QFISHHOOK,KEVjSoRbFISHHOOK,6iTTjmMeL cL R,RhVjToR,6?eaSbHOOK,JESH,JDOTiS",
    "!JbST^Ktk.HOOK,JSQUAyvVjSoESH,JESHbCURL,JTURNoT,KbvT^FiX HOOK,JU Bd,KP:Ll,JVbHOOK,JTURNoV,QW",
    ",QY,6iTTjmMeL cL Y,6?eaZbvT^FiX HOOK,QCURL,JEZH,MbCURL,6iTTj GLOTTemTOP,DPHdYNGEe VOICoFRICA",
    "sVE,DhVjToGLOTTemTOP,DSTvTCHoC,DBI$BIe CLICK,D?eL cL B,6?eaCLOSoOPq E,6iTTjmMeL cL GbHOOK,RH",
    ",6?eaJbC^SSED-&IL,JTURNoK,6iTTjmMeL cL L,6?eaQbHOOK,6iTTj GLOTTemTOPbST^KE,DvVjSoGLOTTemTOPb",
    "ST^KE,6?eaDZ <GzPH,KEZH <GzPH,KZ <GzPHbCURL,JT!<GzPH,KESH <GzPH,KC <GzPHbCURL,JFqG <GzPH,JL!",
    "<GzPH,KZ <GzPH,6iTTj BI$BIe PjCUS:VE,FDqTe PjCUS:VE,6?eaTURNoHbFISHHOOK,f k.&IL,0MO<FIj iTTj",
    "mMeL H,NbHOOK,MJ,MR,MTURNoR,UbHOOK,McL hVjToR,MW,MY,GPRI_,GD%Bi PRI_,GTURNoCOM~,GAPOST^P*,Gv",
    "VjSoCOM~,Hf HeF RhG,GiFyHeF RhG,GGLOTTemTOP,GvVjSoGLOTTemTOP,GiFydRr*AD,GRf dRr*AD,GUP dRr*A",
    "D,GDrN dRr*AD,G;UMFiX ACCqT,0Cdl,0MO<FIj iTTj VjsCe LhE,G~CRl,GACUTtACCqT,GGzVtACCqT,GLr Vjs",
    "Ce LhE,K~CRl,KGzVtACCqT,KACUTtACCqT,GTRIkGULd COLl,GHeF TRIkGULd COLl,GCqTRoRf HeF RhG,OiFyH",
    "eF RhG,GUP &CK,GDrN &CK,GPLUSmw,GMhUSmw,0BvVE,0DOTn,0RhGn,0OGlEK,0?eL sLDE,0D%Bi ACUTtACCqT,",
    "0MO<FIj iTTj RHOsC HOOK,GC^S!ACCqT,G?eL GAM~,ML,MS,MX,MvVjSoGLOTTemTOP,GEXTz-|GH TltBd,G|GH ",
    "TltBd,GMI.TltBd,GLr TltBd,GEXTz-Lr TltBd,GYh DEPdThG TltMdK,HkG DEPdThG TltMdK,GVOIChG,GUNAS",
    "PIzTED,GD%Bi APOST^P*,GLr DrN dRr*AD,KUP dRr*AD,KiFydRr*AD,KRf dRr*AD,MNG,GMIDDi GzVtACCqT,N",
    "D%Bi GzVtACCqT,UACUTtACCqT,GLr sLDE,GzISoCOLl,GBEGh |GH TlE,Gq.|GH TlE,GBEGh Lr TlE,Gq.Lr Tl",
    "E,GS*LF,GOPqm*LF,GLr iFydRr,0COMBhhG GzVtACCqT,AACUTtACCqT,A;UMFiX ACCqT,AsLDE,A~CRl,AOVjLhE",
    ",ABvVE,ADOTn,BIAjE:S,AHOOKn,ARhGn,AD%Bi ACUTtACCqT,ACdl,AVjsCe LhEn,AD%Bi VjsCe LhEn,HGzVtAC",
    "CqT,ACkDzBhDU,AhVjToBvVE,ATURNoCOM~n,ACOM~n,AvVjSoCOM~n,ACOM~n Rf,AGzVtACCqyBELr,AACUTtACCqy",
    "BELr,AiFy&CK BELr,ARf &CK BELr,AiFykGin,AH+N,AiFyHeF RhG BELr,AUP &CK BELr,ADrN &CK BELr,APL",
    "USmw BELr,AMhUSmw BELr,APeATeIZoHOOK BELr,AvT^FiX HOOK BELr,ADOyBELr,BIAjE:!BELr,ARhG BELr,A",
    "COM~ BELr,BE<L$,AOGlEK,AVjsCe LhtBELr,ABRIDGtBELr,AhVjToD%Bi dCH BELr,ACdl BELr,BIRCUMFiX AC",
    "CqyBELr,ABvVtBELr,AhVjToBvVtBELr,AsLDtBELr,A~CRl BELr,ALr LhE,AD%Bi Lr LhE,AsLDtOVj$Y,ASH+Tm",
    "T^KtOVj$Y,ALlGmT^KtOVj$Y,ASH+TmOLIDU!OVj$Y,ALlGmOLIDU!OVj$Y,ARf HeF RhG BELr,AhVjToBRIDGtBEL",
    "r,ASQUdtBELr,BEAGULL BELr,AXn,AVjsCe sLDE,AD%Bi OVjLhE,AGzVtTltMdK,AACUTtTltMdK,AGvEK PjISPO",
    "MqI,GK+lIS,G<eYsKA TlOS,GYPOGEGzMMqI,ABRIDGEn,AEQUeSmw BELr,AD%Bi VjsCe LhtBELr,AiFykGi BELr",
    ",ANOysLDEn,AHOMOxEsCn,AeMOSyEQUe TOn,AiFyRf dRr BELr,AUPWdD!dRr BELr,AGzP*MtJOhj,ARf dRr*ADn",
    ",AiFyHeF RhGn,AFj~&,AX BELr,AiFydRr*A.BELr,ARf dRr*A.BELr,Qk.UP dRr*A.BELr,GHeF RhGn,ADOTn R",
    "f,AASTjISK BELr,AD%Bi RhG BELr,AZIGZAGn,AD%Bi BvVtBELr,M,H~CRl,N BELr,HsLDE,HhVjToBvVE,HRfWd",
    "D!dRr BELr,A$ThmMeaA,TE,TI,TO,TU,TC,TD,TH,TM,TR,TT,TV,TX,0GvEK ca*&,6?ea*&,6cadCuICmAMPI,6?e",
    "adCuICmAMPI,6NUMjemw,6Lrj NUMjemw,6caPAMPHYLIk <GAM~,6?eaPAMPHYLIk <GAM~,=37A,6YPOGEGzMMqI,6",
    "?eL vVjSoLUNATEmIG~m>,CDOTToLUNATEmIG~m>,CvVjSoDOTToLUNATEmIG~m>,6QUESsl MdK,6caYOT,=384,6Tl",
    "OS,6<eYsKA TlOS,6caePubTlOS,6kO TEiIA,6caEP:LlbTlOS,M&bTlOS,LIO&bTlOS,=38C,LOMICRlbTlOS,=38E",
    ",LUP:LlbTlOS,LO_GAbTlOS,6?eaIO&b<eYsKA k.TlOS,6caePu,LBE&,LGAM~,LDEL&,LEP:Ll,LZE&,LE&,LxE&,L",
    "IO&,LKAPPA,L$MDA,LMU,LNU,LXI,LOMICRl,LPI,LRHO,=3A3,L:G~,L&U,LUP:Ll,LP|,LC|,LP:,LO_GA,LIO&b<e",
    "YsKA,LUP:Llb<eYsKA,6?eaePubTlOS,JEP:LlbTlOS,K&bTlOS,JIO&bTlOS,JUP:Llb<eYsKA k.TlOS,JePu,JBE&",
    ",JGAM~,JDEL&,JEP:Ll,JZE&,JE&,JxE&,JIO&,JKAPPA,J$MDA,JMU,JNU,JXI,JOMICRl,JPI,JRHO,JFhemIG~,J:",
    "G~,J&U,JUP:Ll,JP|,JC|,JP:,JO_GA,JIO&b<eYsKA,JUP:Llb<eYsKA,JOMICRlbTlOS,JUP:LlbTlOS,JO_GAbTlO",
    "S,6cL KAIm>,6BE&m>,6xE&m>,6UP:LlbHOOKm>,JACUTtk.HOOKm>,J<AjE:!k.HOOKm>,6P|m>,7Im>,6KAIm>,6iT",
    "Tj dCuIC KOPPA,6?eadCuIC KOPPA,6iTTjmsG~,6?eaSsG~,6iTTj <GAM~,6?ea<GAM~,6iTTj KOPPA,6?eaKOPP",
    "A,6iTTjmAMPI,6?eaSAMPI,0COPsC caS*I,7?eaS*I,7caFEI,7?eaFEI,7caK*I,7?eaK*I,7caH+I,7?eaH+I,7ca",
    "GkGIA,7?eaGkGIA,7caS|~,7?eaS|~,7caDEI,7?eaDEI,0GvEK KAPPAm>,6RHOm>,6LUNATEmIG~m>,7ETTj YOT,6",
    "cL xE&m>,6LUNATtEP:Llm>,6vVjSoLUNATtEP:Llm>,6caSHO,6?eaSHO,6cL LUNATEmIG~m>,FETTjmk,6?eaSk,6",
    "RHObST^KEm>,6cL vVjSoLUNATEmIG~m>,EDOTToLUNATEmIG~m>,EvVjSoDOTToLUNATEmIG~m>,0CYRILLIC caIEb",
    "GzVE,PO,ODJE,OGJE,OUKzhIk IE,ODZE,OBYEL+US:k-UKzhIk I,OYI,OJE,OLJE,ONJE,OTS*,OKJE,OIbGzVE,OS",
    "H+yU,ODZ*,OA,OBE,OVE,OG*,ODE,OIE,OZ*,PE,OI,OSH+yI,OKA,OEL,PM,PN,OO,OPE,Oj,PS,OTE,OU,OEF,Ou,O",
    "TSE,OC*,OSu,QCu,OHdDmw,OYjU,OSOFTmw,OE,OYU,PA,9?eaA,MBE,MVE,MG*,MDE,MIE,MZ*,NE,MI,MSH+yI,MKA",
    ",MEL,NM,NN,MO,MPE,Mj,NS,MTE,MU,MEF,Mu,MTSE,MC*,MSu,OCu,MHdDmw,MYjU,MSOFTmw,ME,MYU,NA,MIEbGzV",
    "E,NO,MDJE,MGJE,MUKzhIk IE,MDZE,MBYEL+US:k-UKzhIk I,MYI,MJE,MLJE,MNJE,MTS*,MKJE,MIbGzVE,MSH+y",
    "U,MDZ*,9caO_GA,9?eaO_GA,9caYAT,9?eaYAT,9caIOsFIoE,9?eaIOsFIoE,9caLITTi YUS,9?eaLITTi YUS,9ca",
    "IOsFIoLITTi YUS,9?eaIOsFIoLITTi YUS,9caBIG YUS,9?eaBIG YUS,9caIOsFIoBIG YUS,9?eaIOsFIoBIG YU",
    "S,9caK:,9?eaK:,9caP:,9?eaP:,9caFI&,9?eaFI&,9caIZ|TSA,9?eaIZ|TSA,9caIZ|TSAbD%Bi GzVtACCqT,9?e",
    "aIZ|TSAbD%Bi GzVtACCqT,9caUK,9?eaUK,9caR%N.O_GA,9?eaR%N.O_GA,9caO_GAbsTLO,9?eaO_GAbsTLO,9caO",
    "T,9?eaOT,9caKOPPA,9?eaKOPPA,9x%SkDSmw,1OMBhhG CYRILLIC sTLO,JPeATeIZAsl,JDA:A PNEU~&,JP:LI P",
    "NEU~&,KOKRYsE,JHUNDRox%SkDSmw,JMILLIlSmw,1YRILLIC caSH+yIb&IL,9?eaSH+yIb&IL,9caSEMISOFTmw,9?",
    "eaSEMISOFTmw,9cajbsCK,9?eajbsCK,9caG*bUPTURN,9?eaG*bUPTURN,9caG*bST^KE,9?eaG*bST^KE,9caG*bMI",
    "DDi HOOK,9?eaG*bMIDDi HOOK,9caZ*bDESCqDj,9?eaZ*bDESCqDj,9caZEbDESCqDj,9?eaZEbDESCqDj,9caKAbD",
    "ESCqDj,9?eaKAbDESCqDj,9caKAbVjsCemT^KE,9?eaKAbVjsCemT^KE,9caKAbST^KE,9?eaKAbST^KE,9caBASHKIR",
    " KA,9?eaBASHKIR KA,9caqbDESCqDj,9?eaqbDESCqDj,9cL LIGATURtq G*,9?eL LIGATURtq G*,9caPEbMIDDi",
    " HOOK,9?eaPEbMIDDi HOOK,9caABKu:k u,9?eaABKu:k u,9caESbDESCqDj,9?eaESbDESCqDj,9caTEbDESCqDj,",
    "9?eaTEbDESCqDj,9caSTzf U,9?eaSTzf U,9caSTzf UbST^KE,9?eaSTzf UbST^KE,9caubDESCqDj,9?eaubDESC",
    "qDj,9cL LIGATURtTtTSE,9?eL LIGATURtTtTSE,9caC*bDESCqDj,9?eaC*bDESCqDj,9caC*bVjsCemT^KE,9?eaC",
    "*bVjsCemT^KE,9caSHu,9?eaSHu,9caABKu:k C*,9?eaABKu:k C*,9caABKu:k C*bDESCqDj,9?eaABKu:k C*bDE",
    "SCqDj,9iTTj PeOCHKA,9caZ*bBvVE,9?eaZ*bBvVE,9caKAbHOOK,9?eaKAbHOOK,9caELb&IL,9?eaELb&IL,9caqb",
    "HOOK,9?eaqbHOOK,9caqb&IL,9?eaqb&IL,9caKuKAS:k C*,9?eaKuKAS:k C*,9caEMb&IL,9?eaEMb&IL,MPeOCHK",
    "A,9caAbBvVE,9?eaAbBvVE,9caAb<AjE:S,9?eaAb<AjE:S,9cL LIGATURtA IE,9?eL LIGATURtA IE,9caIEbBvV",
    "E,9?eaIEbBvVE,9caSCHWA,9?eaSCHWA,9caSCHWAb<AjE:S,9?eaSCHWAb<AjE:S,9caZ*b<AjE:S,9?eaZ*b<AjE:S",
    ",9caZEb<AjE:S,9?eaZEb<AjE:S,9caABKu:k DZE,9?eaABKu:k DZE,9caIb~CRl,9?eaIb~CRl,9caIb<AjE:S,9?",
    "eaIb<AjE:S,9caOb<AjE:S,9?eaOb<AjE:S,9caBdRoO,9?eaBdRoO,9caBdRoOb<AjE:S,9?eaBdRoOb<AjE:S,9caE",
    "b<AjE:S,9?eaEb<AjE:S,9caUb~CRl,9?eaUb~CRl,9caUb<AjE:S,9?eaUb<AjE:S,9caUbD%Bi ACUTE,9?eaUbD%B",
    "i ACUTE,9caC*b<AjE:S,9?eaC*b<AjE:S,9caG*bDESCqDj,9?eaG*bDESCqDj,9caYjUb<AjE:S,9?eaYjUb<AjE:S",
    ",9caG*bST^Ktk.HOOK,9?eaG*bST^Ktk.HOOK,9caubHOOK,9?eaubHOOK,9caubST^KE,9?eaubST^KE,9caKOMI DE",
    ",9?eaKOMI DE,9caKOMI DJE,9?eaKOMI DJE,9caKOMI ZJE,9?eaKOMI ZJE,9caKOMI DZJE,9?eaKOMI DZJE,9c",
    "aKOMI LJE,9?eaKOMI LJE,9caKOMI NJE,9?eaKOMI NJE,9caKOMImJE,9?eaKOMImJE,9caKOMI TJE,9?eaKOMI ",
    "TJE,9cavVjSoZE,9?eavVjSoZE,9caELbHOOK,9?eaELbHOOK,9caLu,9?eaLu,9caRu,9?eaRu,9caYAE,9?eaYAE,9",
    "caQA,9?eaQA,9caWE,9?eaWE,9caeEUyKA,9?eaeEUyKA,9caELbMIDDi HOOK,9?eaELbMIDDi HOOK,9caqbMIDDi ",
    "HOOK,9?eaqbMIDDi HOOK,9caPEbDESCqDj,9?eaPEbDESCqDj,9caSHubDESCqDj,9?eaSHubDESCqDj,9caqbiFyHO",
    "OK,9?eaqbiFyHOOK,9caDZZ*,9?eaDZZ*,9caDC*,9?eaDC*,9caELbDESCqDj,9?eaELbDESCqDj,=531,0dMqIk ca",
    "AYB,OBq,OGIM,ODA,OECH,OZA,OEH,PT,OTO,OZ*,OhI,OLIWN,OXEH,OCA,OKq,OHO,OJA,OGuD,OC*H,OMq,OYI,ON",
    "r,OSu,OVO,OCu,OPEH,OJ*H,Oz,OSEH,OVEW,OsWN,OvH,OCO,OYIWN,OPIWR,OKEH,OOH,OFEH,=559,9MO<FIj iTT",
    "j iFyHeF RhG,9APOST^P*,9EMPu:!MdK,AXC$~sl MdK,9COM~,9QUESsl MdK,9ABBvVIAsl MdK,9?eaTURNoAYB,",
    "MAYB,MBq,MGIM,MDA,MECH,MZA,MEH,NT,MTO,MZ*,MhI,MLIWN,MXEH,MCA,MKq,MHO,MJA,MGuD,MC*H,MMq,MYI,M",
    "Nr,MSu,MVO,MCu,MPEH,MJ*H,Mz,MSEH,MVEW,MsWN,MvH,MCO,MYIWN,MPIWR,MKEH,MOH,MFEH,GIGATURtECH YIW",
    "N,GETTj YIbST^KE,9FULLmTOP,9HYPHq,=58D,0Rf-FAChG dMqIk ETjNITYmw,0iFT-FAChG dMqIk ETjNITYmw,",
    "0dMqIk DzMmw,=591,0*BvW ACCqyETNAH&,ESEGOL,FHeS*iT,EZAQEF QATk,KGADOL,EsPEu,EvVIA,EZdQA,EPAS",
    "H&,EYEsV,ETEVIR,EGjESH,K MUQDAM,HSuYIM,EQdNEY PdA,ETELISu GEDO$,EPAZj,EATNAH uFUKH,EMUNAH,FA",
    "uPAKH,FjKu,K KEFU$,EDdGA,EQAD~,ETELISu QETkA,EYjAH Bq YOMO,EOi,EILUY,EDE|,EZh+,7MdK ~SOz ;i,",
    "7POhTm*VA,Du&FmEGOL,JPA&H,JQA~TS,EIRIQ,DTSjE,DSEGOL,DPA&H,DQA~TS,DHO$M,I uSj F+ VAV,DQUBUTS,",
    "DDAGESH + ~PIQ,D_TEG,8UNCTUAsl ~QAF,8OhyzFE,8UNCTUAsl PASEQ,8OhTmHh DOT,Eh DOT,8UNCTUAslmOF ",
    "PASUQ,7MdK UPPj DOT,CLrj DOT,7PUNCTUAsl NUN uFUKu,8OhyQA~T!QATk,=5D0,7iTTj eEF,EBET,EGI_L,ED",
    "eET,E*,EVAV,EZAYh,E*T,ETET,EYOD,EFhe KAF,EKAF,E$_D,EFhe _M,E_M,EFhe NUN,ENUN,ESA_KH,EAYh,EFh",
    "e PE,EPE,EFhe TSA<,ETSA<,EQOF,EvSH,ESHh,E&V,=5EF,7YO.TRIkGi,7LIGATURtYID<SH D%Bi VAV,OVAV YO",
    "D,OD%Bi YOD,7PUNCTUAsl GjESH,MSuYIM,=600,0dABIC NUMBjmw,7SwmkAH,7FOOTNOTtMdKj,7SwmAFu,EMVAT,",
    "7NUMBj MdKn,6-h<C CUBt^OT,DF%Rx ^OT,6 zY,6-h<C Pj MILimw,HTq x%SkDmw,1FGHkImw,1zBIC COM~,7DA",
    "TEmEPdAT+,7POEsC VjSEmw,7Sw MISz,CSeLe$H% eAYHtWASSe$M,CeAYHtASSe$M,CzH~TUL$H eAY*,E< e$H% k",
    "HU,C&KHeLUS,8MeL |GH &H,ILIGATURteEFb$MbYEH,IZAh,DFATu,DDAM~,DKASz,8EMICOLl,7iTTj MdK,7q.OF ",
    "TEXyMdK,7TRIPi DOyPUNCTUAsl MdK,7QUESsl MdK,7iTTj KASHMIRI YEH,EuMZA,EeEFb~DDAn,OuMZAn,EWAWb",
    "uMZAn,EeEFbuMZA BELr,EYEHbuMZAn,EeEF,EBEH,ETEH MdBU&,H,F*H,EJEEM,EuH,EKuH,EDe,Exe,EvH,EZAh,E",
    "SEq,F*q,FAD,EDAD,E&H,EZAH,EAh,EGuh,EKE*HbTWO DOTSn,QHvtDOT!BELr,EFd: YEHbhVjToV,TTWO DOTSn,U",
    "HvtDOTSn,7&TWEEL,7iTTj FEH,EQAF,EKAF,E$M,E_EM,ENOl,E*H,EWAW,EeEF ~KSUz,EYEH,7FATuTk,7DAM~Tk,",
    "7KASzTk,7FATu,7DAM~,7KASz,7SuDDA,8UKUN,7~DDAHn,7uMZAn,DBELr,7SUBSCRIPyeEF,7hVjToDAM~,7MdK NO",
    "l GHUNNA,7ZWdAKAY,7VrELmwmMeL Vn,IhVjTEDmMeL Vn,IDOyBELr,7vVjSoDAM~,7FATubTWO DOTS,7WAVY uMZ",
    "A BELr,6-h<C <GIyZjO,JlE,JTWO,KHvE,JF%R,KIVE,J:X,KEVq,JEf,JNhE,6 PjCqTmw,7DECIMemEPdAT+,7x%S",
    "kDSmEPdAT+,7FIVtPOhTEDmTd,7iTTj DOTiS!BEH,MQAF,ESUPjSCRIPyeEF,EeEF WAS$,KIx WAVY uMZAn,ZBELr",
    ",E|GH uMZA,O eEF,PWAW,EUbuMZAn,E|GH uMZA YEH,ETTEH,IEH,EBEEH,ETEHbRhG,NxvtDOTSn DrNWdDS,EPEH",
    ",ETE*H,EBE*H,EuHbuMZAn,NTWO DOT!VjsCen,ENYEH,EDYEH,EuHbxvtDOTSn,ETC*H,JEH,EDDe,FebRhG,NDOyBE",
    "Lr,W kDmMeL &H,GHe,FDAHe,FUL,FebxvtDOTSn DrNWdDS,NF%R DOTSn,ERvH,FEHb?eL V,NRhG,NDOyBELr,N?e",
    "L V BELr,NDOyBELr k.DOTn,NTWO DOTSn,EJEH,EvHbF%R DOTSn,ESEqbDOyBELr k.DOTn,OxvtDOT!BELr,e k.",
    "xvtDOTSn,FADbTWO DOT!BELr,OHvtDOTSn,E&HbxvtDOTSn,EAhbxvtDOTSn,EDOTiS!FEH,EFEHbDOyMOVoBELr,RB",
    "ELr,EVEH,EFEHbxvtDOT!BELr,EPE*H,EQAFbDOTn,NxvtDOTSn,EKE*H,ESWASH KAF,EKAFbRhG,NDOTn,ENG,EKAF",
    "bxvtDOT!BELr,EGAF,HbRhG,ENGOEH,EGAFbTWO DOT!BELr,FUEH,FAFbxvtDOTSn,E$Mb?eL V,NDOTn,NxvtDOTSn",
    ",YBELr,ENOlbDOyBELr,JGHUNNA,ERNOl,ENOlbRhG,OxvtDOTSn,E*H DOACuSH_E,ETC*HbDOTn,E*HbYEHn,IGOe,",
    "MbuMZAn,ETEH MdBU& GOe,EWAWbRhG,EKIRG|Z OE,EOE,EU,EYU,EKIRG|Z YU,EWAWbTWO DOTSn,EVE,EFd: YEH",
    ",EYEHb&IL,N?eL V,EWAWbDOTn,EE,EYEHbxvtDOT!BELr,IBdvE,ObuMZAn,7FULLmTOP,7iTTj AE,7?eL |GH LIG",
    "ATUvmADb$MbeEF ~KSUz,RQAFb$MbeEF ~KSUz,I_EM hIseg,I$M eEF,IJEEM,IxvtDOTS,ISEq,7q.OF AYAH,7ST",
    "dyOF RUB EL |ZB,8MeL |GH R%NDoZjO,IUPRf vCTkGULd ZjO,IDOTiS!*A.OF KuH,I_EMpg,DLrmEq,D|GH ~DD",
    "A,DWAW,DYEH,D|GH YEH,INOl,7P$CtOFmAJDAH,7EMPTY CqTRtLrmTOP,K|GHmTOP,7R%NDo|GHmTOPbFILi.CqTv,",
    "7?eL Lr _EM,7iTTj DebhVjToV,EvHbhVjToV,0EXTqDodABIC-h<C <GIyZjO,SlE,STWO,THvE,SF%R,TIVE,S:X,",
    "TEVq,SEf,SNhE,0dABIC iTTjm*qbDOyBELr,EDADbDOyBELr,EGuhbDOyBELr,7SwmhD| AMPjSkD,JPOSTPO:sl Mq",
    ",7iTTj *HbhVjToV,0SYRIAC q.OF PdAGzPH,7SUPRehEd FULLmTOP,9BLhEd FULLmTOP,9PRehEd COLl,9BLhEd",
    " COLl,7H+IZlTe COLl,7COLlmKEWoiFT,KRf,7SUPRehEd COLlmKEWoiFT,9BLhEd COLlmKEWoRf,7ClTzCsl,7Hd",
    "Kik OBELUS,G_TOBELUS,GASTjISCUS,=70F,7ABBvVIAsl MdK,7iTTj eAPH,ESUPjSCRIPyeAPH,EBEx,EGAMe,J ",
    "GdSHUNI,EDeAx,FOTiS!DeAx RISH,E*,EWAW,EZAh,E*x,ETEx,I GdSHUNI,EYUDH,I *,EKAPH,E$~DH,EMIM,ENU",
    "N,ESEMKAx,EFhemEMKAx,EE,EPE,EvVjSoPE,ESAD*,EQAPH,ERISH,ESHh,E&W,EPj:k B*x,MGuMe,MDHeAx,7PTuu",
    "n,EBELr,EDOTTED,7ZQAPun,EBELr,EDOTTED,7RBASAn,DBELr,7DOTToZ$~ H+IZlTe,KkGULd,7HBASAn,DBELr,C",
    "-ESASA DOTTED,7ESASAn,DBELr,7RWAu,7FEMhhtDOT,7QUSHSuYA,7RUKKAKu,7TWO VjsCe DOTSn,PBELr,8HvtD",
    "OTSn,IBELr,7OBLIQUtLhEn,KBELr,7MU:C,7BdvKH,=74D,7iTTjmOG<k Zuh,MKuPH,MFE,0dABIC iTTj BEHbxvt",
    "DOT!H+IZlTeLY BELr,NDOyBELr k.xvtDOTSn,NxvtDOT!POhThG UPWdD!BELr,u k.TWO DOTSn,OWO DOT!BELr ",
    "k.DOTn,NhVjTEDmMeL V BELr,N?eL V,EuHbTWO DOTSn,OHvtDOT!POhThG UPWdD!BELr,EDebTWO DOT!VjsCeLY",
    " BELr kDmMeL &H,NhVjTEDmMeL V BELr,EvHbST^KE,ESEqbF%R DOTSn,EAhbTWO DOTSn,OHvtDOT!POhThG DrN",
    "WdDSn,OWO DOT!VjsCeLYn,EFEHbTWO DOT!BELr,OHvtDOT!POhThG UPWdD!BELr,EKE*HbDOTn,PxvtDOTSn,aPOh",
    "ThG UPWdD!BELr,E_EMbDOTn,SBELr,ENOlbTWO DOT!BELr,O?eL &H,UV,E$MbBd,EvHbTWO DOT!VjsCeLYn,NuMZ",
    "An,ESEqbTWO DOT!VjsCeLYn,EuHb?eL dABIC iTTj &H BELr,lk.TWO DOTS,ESEqb?eL dABIC iTTj &H k.TWO",
    " DOTS,EvHb?eL dABIC iTTj &H k.TWO DOTS,EuHb?eL dABIC iTTj &Hn,EeEFbEXTqDodABIC-h<C <GIyTWOn,",
    "rHvEn,EFd: YEHbEXTqDodABIC-h<C <GIyTWOn,wHvEn,vF%R BELr,EWAWbEXTqDodABIC-h<C <GIyTWOn,qHvEn,",
    "EYEH BdvEbEXTqDodABIC-h<C <GIyTWOn,xHvEn,EuHbEXTqDodABIC-h<C <GIyF%R BELr,ESEqbEXTqDodABIC-h",
    "<C <GIyF%Rn,OhVjToV,EKAFbTWO DOTSn,0TukA iTTj uA,ESuVIYkI,ENOlU,EzA,EBAA,ELuVIYkI,EKAAFU,EeI",
    "FU,EVAAVU,E_EMU,EFAAFU,EDueU,ETuA,E$AMU,EGAAFU,FNAVIYkI,ESEqU,EDAVIYkI,EZAVIYkI,E&VIYkI,EYAA",
    ",EPAVIYkI,EJAVIYkI,ECuVIYkI,ET&A,EHuA,EKuA,ETueU,EZAA,ES*qU,FAADHU,EDAADHU,ETO,EZO,EAhU,EGuh",
    "U,EQAAFU,EWAAVU,7ABAFILI,8ABAAFILI,7IBIFILI,7EEBEEFILI,7UBUFILI,7OOBOOFILI,7EBEFILI,8YBEYFIL",
    "I,7OBOFILI,8ABOAFILI,7SUKUN,7iTTj NAA,=7C0,0NKO <GIyZjO,AlE,ATWO,BHvE,AF%R,BIVE,A:X,BEVq,AEf",
    ",ANhE,4iTTj A,BEE,BI,BE,BU,BOO,C,BDAGBAShNA,BN,BBA,BPA,B&,BJA,BCu,BDA,Bz,Cz,BSA,BGBA,BFA,BKA",
    ",B$,BNA WOLOSO,B~,BNYA,CA,Bu,BWA,BYA,BNYA WOLOSO,BJlA JA,GCu,Gz,4COMBhhGmH+y|GH TlE,KLr TlE,",
    "KRIShG TlE,ELlG DESCqDhG TlE,J|GH TlE,JLr TlE,JRIShG TlE,ENASeIZAsl MdK,ED%Bi DOTn,4|GH TltA",
    "POST^P*,4Lr TltAPOST^P*,4S> OO DqNq,BGBAKURUNq,4COM~,4EXC$~sl MdK,4$JkYek,=7FD,4Dk&Yek,5+O_m",
    "w,4&Mkmw,0SAMdITk iTTj eAF,HBIT,HGAMk,HDeAT,HIY,HBAA,HZq,HIT,HsT,HYUT,HKAAF,H$BAT,HMIM,HNUN,",
    "HShGAAT,Hh,HFI,HTSAA<Y,HQUF,HRISH,HSHk,H&AF,AMdK h,H-eAF,FOCCLU:l,FDAGESH,BO<FIj iTTj EPqxEs",
    "C YUT,BdK EPqxEsC YUT,AVrELmw LlG E,LE,LOVjLlG AA,LLlG AA,LAA,LOVjLlG A,LLlG A,LA,AMO<FIj iT",
    "TjmH+yA,AVrELmwmH+yA,LLlG U,LU,AMO<FIj iTTj I,AVrELmw LlG I,LI,LO,LSUKUN,AMdK NEQUDAA,=830,A",
    "PUNCTUAsl NEQUDAA,MAFSAAQ,NNGED,MBAU,MAT~AU,MS|YYAeAA,AABBvVIAsl MdK,APUNCTUAsl _LO<C QITSA,",
    "MZIQAA,MQITSA,MZAEF,MTURU,MdKAkU,MSOF ~SHFAAT,MkNAAU,=840,0MkDAIC iTTj HeQA,FAB,GG,GD,GH,FUS",
    "HqNA,FAZ,FIT,FATT,GKSA,H,GL,GM,GN,GS,Fh,FAP,GSZ,GQ,GR,GSH,GT,FDUSHqNA,FKAD,FAh,8AFFRICAsl Md",
    "K,8VOCeIZAsl MdK,8GEMhAsl MdK,=85E,8PUNCTUAsl,=860,0SYRIAC iTTj MeAYeAM NGA,OJA,ONYA,OT&,ONN",
    "A,QNA,OBu,Oz,OL$,Q$,OSSA,=870,0dABIC iTTj eEFbAT&CHoFATu,XTOP Rf FATu,ORf MIDDimT^KE,OiFyMID",
    "DimT^KE,OAT&CHoKASz,XBOTTOM Rf KASz,XR%N.DOTn,Yf R%N.DOT,XiFyR%N.DOT,XR%N.DOyBELr,ODOTn,OAT&",
    "CHoTOP Rf FATu k.DOTn,ORf MIDDimT^Ktk.DOTn,OAT&CHoBOTTOM Rf KASz k.DOTn,XTOP Rf FATu k.iFyRh",
    "G,ORf MIDDimT^Ktk.iFyRhG,OAT&CHoBOTTOM Rf KASz k.iFyRhG,XRf uMZA,XiFyuMZA,7&TWEELbOVjSTRUCK ",
    "uMZA,VWAW,KTWO DOT!BELr,7iTTj xh YEH,7BASELhtR%N.DOT,7zISoR%N.DOT,7iTTj NOlbhVjTEDmMeL V,EuH",
    "bhVjTEDmMeL V BELr,E&HbDOyBELr,NxvtDOT!BELr,EKE*HbTWO DOT!VjsCeLY BELr,7VjsCe &IL,=890,7P%N.",
    "MdKn,8IASTRtMdKn,=898,7?eL |GH W+.e-JUZ,DLr W+.ISH~AM,N~eA,M&S*EL,7~DDA WAAJIB,7SUPjSCRIPyeE",
    "F MOKuSSAS,7D%Bi.~DDA,7HeF ~DDA OVj ~DDA,7iTTj BEHb?eL V BELr,NuMZAn,EJEEMbTWO DOTSn,E&HbTWO",
    " DOTSn,EFEHbDOyBELr k.xvtDOTSn,EQAFbDOyBELr,E$MbD%Bi Bd,E_EMbxvtDOTSn,EYEHbTWO DOT!BELr k.uM",
    "ZAn,gDOTn,EvHbLOOP,EWAWbDOyWIxh,E^HhGYA YEH,ELr eEF,EDebxvtDOT!BELr,ESADbxvtDOT!BELr,EGAFbhV",
    "jTEDmT^KE,ESTzf WAW,EZAhbhVjToVn,EAhbxvtDOT!BELr,EKAFbDOyBELr,EQAFbDOyBELr k.NO DOTSn,EBEHb?",
    "eL _EMn,EPEHb?eL _EMn,ETEHb?eL TEHn,EvHb?eL NOln,EYEHbTWO DOT!BELr kDmMeL NOln,EAFRICk FEH,M",
    "QAF,MNOl,EPEHb?eL V,ETEHb?eL V,FTEHb?eL V,FC*Hb?eL V,EKE*Hb?eL V,EGuhbxvtDOTSn,EAFRICk QAFbx",
    "vtDOTSn,EJEEMbxvtDOTSn,ZBELr,E$Mb?eL dABIC iTTj &Hn,EGzF,7?eL Fd: YEH,D|GH Fd: YEH,IYEH BdvE",
    "bTWO DOT!BELr,IW+DmAH,IZAH,7LdGtR%N.DOTn,NBELr,7SUKUN BELr,7LdGt;i BELr,DR%N.DOyh:Dt;i BELr,",
    "7?eL Lr WAW,D|GH W+.d-RUB,ISAD,IAh,IQAF,INOlbKASz,DLr NOlbKASz,D|GH W+.Ax-xeATu,OS-SAJDA,ON-",
    "NISF,NSAK&,NQIF,NWAQFA,IFOOTNOTtMdKj,ISwmAFu,7<SPUToq.OF AYAH,7TURNoDAM~ BELr,7CURLY FATu,DD",
    "AM~,DKASz,DFATuTk,DDAM~Tk,DKASzTk,7TltltDOTn,CTWO DOTSn,CLOOPn,CltDOyBELr,CTWO DOT!BELr,CLOO",
    "P BELr,7OPq FATuTk,CDAM~Tk,CKASzTk,7?eL |GH WAW,7FATubRhG,IDOTn,7KASzbDOyBELr,7iFydRr*ADn,7R",
    "f dRr*ADn,7iFydRr*A.BELr,7Rf dRr*A.BELr,7D%Bi Rf dRr*ADn,ZbDOT,7Rf dRr*ADnbDOT,7DAM~bDOT,7Md",
    "KmIDEWAY!NOl GHUNNA,0DEVkAGdImw hVjToCkDzBhDU,GCkDzBhDU,GkUSVdA,GVISdGA,BiTTjmH+yA,IA,JA,II,",
    "JI,IU,JU,IVOCeIC R,QL,ICkDz E,ISH+yE,IE,IAI,ICkDz O,ISH+yO,IO,IAU,IKA,Ju,IGA,Ju,INGA,ICA,Ju,",
    "IJA,Ju,INYA,IT&,Ku,IDDA,Ku,INNA,I&,Ju,IDA,Ju,INA,JNNA,IPA,Ju,IBA,Ju,I~,IYA,Iz,Jz,I$,J$,K$,IV",
    "A,ISu,JSA,JA,Iu,BVrELmw OE,NOE,BSw NUK&,GAVAGzu,BVrELmw AA,MI,NI,MU,NU,MVOCeIC R,VR,MCkDz E,",
    "MSH+yE,ME,MAI,MCkDz O,MSH+yO,MO,MAU,BSw VIz~,BVrELmw PRISHTu~Tz E,MAW,BOM,BSTvSSmw UDAT&,NkU",
    "DAT&,BGzVtACCqT,BACUTtACCqT,BVrELmw CkDz LlG E,MUE,NUE,BiTTj QA,IKHu,IGHu,IZA,IDDDu,IRu,IFA,",
    "IYYA,IVOCeIC RR,QLL,BVrELmw VOCeIC L,VL,BDkDA,C%Bi DkDA,CIGIyZjO,HlE,HTWO,IHvE,HF%R,IIVE,H:X",
    ",IEVq,HEf,HNhE,BABBvVIAslmw,BSw |GHmPAChG DOT,BiTTj CkDz A,IOE,JOE,IAW,IUE,JUE,IMdWdI DDA,IZ",
    "u,I*AVY YA,IGGA,IJJA,IGLOTTemTOP,IDDDA,IBBA,0BqGeI kJI,8Sw CkDzBhDU,DkUSVdA,DVISdGA,=985,8iT",
    "Tj A,GA,FI,GI,FU,GU,FVOCeIC R,NL,=98F,FE,FAI,=993,FO,FAU,FKA,Gu,FGA,Gu,FNGA,FCA,Gu,FJA,Gu,FN",
    "YA,FT&,Hu,FDDA,Hu,FNNA,F&,Gu,FDA,Gu,FNA,=9AA,FPA,Gu,FBA,Gu,F~,FYA,Fz,=9B2,F$,=9B6,FSu,GSA,GA",
    ",Fu,=9BC,8Sw NUK&,DAVAGzu,8VrELmw AA,JI,KI,JU,KU,JVOCeIC R,SR,=9C7,JE,JAI,=9CB,JO,JAU,8Sw VI",
    "z~,8iTTj KHkDA &,=9D7,8AU iNGx MdK,=9DC,8iTTj Rz,Gu,=9DF,FYYA,FVOCeIC RR,NLL,8VrELmw VOCeIC ",
    "L,SL,=9E6,8<GIyZjO,ElE,ETWO,FHvE,EF%R,FIVE,E:X,FEVq,EEf,ENhE,8iTTj zbMIDDi <AGle,NLrj <AGle,",
    "8RUPEtMdK,ESw,8CURRqCY NUMjAT+ lE,RTWO,SHvE,RF%R,RltiS!xk xtDqOMhAT+,HDqOMhAT+mIXTEq,8ISSHd,",
    "8GkDA MdK,8iTTj VE<C kUSVdA,8ABBvVIAslmw,8SkD| MdK,=A01,0GURMUK|mw ADAK Bh<,EBh<,EVISdGA,=A0",
    "5,9iTTj A,HA,GI,HI,GU,HU,=A0F,GEE,GAI,=A13,GOO,GAU,GKA,Hu,GGA,Hu,GNGA,GCA,Hu,GJA,Hu,GNYA,GT&",
    ",Iu,GDDA,Iu,GNNA,G&,Hu,GDA,Hu,GNA,=A2A,GPA,Hu,GBA,Hu,G~,GYA,Gz,=A32,G$,H$,=A35,GVA,GSu,=A38,",
    "HA,Gu,=A3C,9Sw NUK&,=A3E,9VrELmw AA,KI,LI,KU,LU,=A47,KEE,KAI,=A4B,KOO,KAU,9Sw VIz~,=A51,EUDA",
    "AT,=A59,9iTTj KHu,GGHu,GZA,GRz,=A5E,GFA,=A66,9<GIyZjO,FlE,FTWO,GHvE,FF%R,GIVE,F:X,GEVq,FEf,F",
    "NhE,9sPPI,9ADDAK,9IRI,9Uz,9EK lKd,9Sw YAKASH,9ABBvVIAslmw,=A81,2JdAsmw CkDzBhDU,EkUSVdA,EVIS",
    "dGA,=A85,9iTTj A,HA,GI,HI,GU,HU,GVOCeIC R,OL,9VrEL CkDz E,=A8F,9iTTj E,GAI,9VrEL CkDz O,=A93",
    ",9iTTj O,GAU,GKA,Hu,GGA,Hu,GNGA,GCA,Hu,GJA,Hu,GNYA,GT&,Iu,GDDA,Iu,GNNA,G&,Hu,GDA,Hu,GNA,=AAA",
    ",GPA,Hu,GBA,Hu,G~,GYA,Gz,=AB2,G$,H$,=AB5,GVA,GSu,HSA,HA,Gu,=ABC,9Sw NUK&,EAVAGzu,9VrELmw AA,",
    "KI,LI,KU,LU,KVOCeIC R,TR,KCkDz E,=AC7,KE,KAI,KCkDz O,=ACB,KO,KAU,9Sw VIz~,=AD0,9OM,=AE0,9iTT",
    "j VOCeIC RR,OLL,9VrELmw VOCeIC L,TL,=AE6,9<GIyZjO,FlE,FTWO,GHvE,FF%R,GIVE,F:X,GEVq,FEf,FNhE,",
    "9ABBvVIAslmw,9RUPEEmw,=AF9,9iTTj Zu,9SwmUKUN,FuDDA,E~DDAH,ExvE-DOyNUK&n,E;i NUK&n,ETWO-;i NU",
    "K&n,=B01,0+IYAmw CkDzBhDU,BkUSVdA,BVISdGA,=B05,6iTTj A,EA,DI,EI,DU,EU,DVOCeIC R,LL,=B0F,DE,D",
    "AI,=B13,DO,DAU,DKA,Eu,DGA,Eu,DNGA,DCA,Eu,DJA,Eu,DNYA,DT&,Fu,DDDA,Fu,DNNA,D&,Eu,DDA,Eu,DNA,=B",
    "2A,DPA,Eu,DBA,Eu,D~,DYA,Dz,=B32,D$,E$,=B35,DVA,DSu,ESA,EA,Du,=B3C,6Sw NUK&,BAVAGzu,6VrELmw A",
    "A,HI,II,HU,IU,HVOCeIC R,QR,=B47,HE,HAI,=B4B,HO,HAU,6Sw VIz~,=B55,BOVjLhE,6AI iNGx MdK,7U iNG",
    "x MdK,=B5C,6iTTj Rz,Eu,=B5F,DYYA,DVOCeIC RR,LLL,6VrELmw VOCeIC L,QL,=B66,6<GIyZjO,ClE,CTWO,D",
    "HvE,CF%R,DIVE,C:X,DEVq,CEf,CNhE,6ISSHd,6iTTj WA,6FzCsl ltQUdTj,JHeF,FxvtQUdTjS,FlEmIXTEqx,JE",
    "fH,FxvEmIXTEqxS,=B82,0&MILmw kUSVdA,BVISdGA,=B85,6iTTj A,EA,DI,EI,DU,EU,=B8E,DE,EE,DAI,=B92,",
    "DO,EO,DAU,DKA,=B99,DNGA,DCA,=B9C,DJA,=B9E,DNYA,DT&,=BA3,DNNA,D&,=BA8,DNA,ENNA,DPA,=BAE,D~,DY",
    "A,Dz,Ez,D$,E$,F$,DVA,DSu,ESA,EA,Du,=BBE,6VrELmw AA,HI,II,HU,IU,=BC6,HE,IE,HAI,=BCA,HO,IO,HAU",
    ",6Sw VIz~,=BD0,6OM,=BD7,6AU iNGx MdK,=BE6,6<GIyZjO,ClE,CTWO,DHvE,CF%R,DIVE,C:X,DEVq,CEf,CNhE",
    ",6NUMBj Tq,DltHUNDvD,Hx%SkD,6DAYmw,6Mlxmw,6YEdmw,6DEBITmw,6Cv<Tmw,6ASnmw,6RUPEEmw,6NUMBjmw,=",
    "C00,1ELUGUmw COMBhhG CkDzBhDUn,DkDzBhDU,CkUSVdA,CVISdGA,CCOMBhhG kUSVdAn,7iTTj A,FA,EI,FI,EU",
    ",FU,EVOCeIC R,ML,=C0E,EE,FE,EAI,=C12,EO,FO,EAU,EKA,Fu,EGA,Fu,ENGA,ECA,Fu,EJA,Fu,ENYA,ET&,Gu,",
    "EDDA,Gu,ENNA,E&,Fu,EDA,Fu,ENA,=C2A,EPA,Fu,EBA,Fu,E~,EYA,Ez,Fz,E$,F$,G$,EVA,ESu,FSA,FA,Eu,=C3",
    "C,7Sw NUK&,CAVAGzu,7VrELmw AA,II,JI,IU,JU,IVOCeIC R,RR,=C46,IE,JE,IAI,=C4A,IO,JO,IAU,7Sw VIz",
    "~,=C55,7iNGx MdK,7AI iNGx MdK,=C58,7iTTj TSA,EDZA,ERRz,=C5D,ENAKAdA POLLU,=C60,EVOCeIC RR,ML",
    "L,7VrELmw VOCeIC L,RL,=C66,7<GIyZjO,DlE,DTWO,EHvE,DF%R,EIVE,D:X,EEVq,DEf,DNhE,=C77,7SwmIDDuM",
    ",7FzCsl <GIyZjO F+ OD.Prj!OF F%R,MltF+ OD.Prj!OF F%R,MTWO F+ OD.Prj!OF F%R,NHvtF+ OD.Prj!OF ",
    "F%R,MltF+ EVq Prj!OF F%R,MTWO F+ EVq Prj!OF F%R,NHvtF+ EVq Prj!OF F%R,7Sw TUUMU,0KkNADAmwmPA",
    "ChG CkDzBhDU,DCkDzBhDU,DkUSVdA,DVISdGA,D:DDuM,8iTTj A,GA,FI,GI,FU,GU,FVOCeIC R,NL,=C8E,FE,GE",
    ",FAI,=C92,FO,GO,FAU,FKA,Gu,FGA,Gu,FNGA,FCA,Gu,FJA,Gu,FNYA,FT&,Hu,FDDA,Hu,FNNA,F&,Gu,FDA,Gu,F",
    "NA,=CAA,FPA,Gu,FBA,Gu,F~,FYA,Fz,Gz,F$,G$,=CB5,FVA,FSu,GSA,GA,Fu,=CBC,8Sw NUK&,DAVAGzu,8VrELm",
    "w AA,JI,KI,JU,KU,JVOCeIC R,SR,=CC6,JE,KE,JAI,=CCA,JO,KO,JAU,8Sw VIz~,=CD5,8iNGx MdK,8AI iNGx",
    " MdK,=CDD,8iTTj NAKAdA POLLU,FFA,=CE0,FVOCeIC RR,NLL,8VrELmw VOCeIC L,SL,=CE6,8<GIyZjO,ElE,E",
    "TWO,FHvE,EF%R,FIVE,E:X,FEVq,EEf,ENhE,=CF1,8Sw JIHVAMULIYA,DUPADHMkIYA,=D00,0MeAYeAMmw COMBhh",
    "G kUSVdAn,GkDzBhDU,FkUSVdA,FVISdGA,AiTTj VE<C kUSVdA,HA,IA,HI,II,HU,IU,HVOCeIC R,PL,=D0E,HE,",
    "IE,HAI,=D12,HO,IO,HAU,HKA,Iu,HGA,Iu,HNGA,HCA,Iu,HJA,Iu,HNYA,HT&,Ju,HDDA,Ju,HNNA,H&,Iu,HDA,Iu",
    ",HNA,INNA,HPA,Iu,HBA,Iu,H~,HYA,Hz,Iz,H$,I$,J$,HVA,HSu,ISA,IA,Hu,HTT&,ASw VjsCe Bd VIz~,F;ULd",
    " VIz~,FAVAGzu,AVrELmw AA,LI,MI,LU,MU,LVOCeIC R,UR,=D46,LE,ME,LAI,=D4A,LO,MO,LAU,ASw VIz~,AiT",
    "Tj DOyvPH,ASw PdA,=D54,AiTTj C|LLU M,OY,OLLL,AAU iNGx MdK,AFzCsl ltlE-HUNDvD-kD-:XsEx,NF+sEx",
    ",JxvtEfIExS,JltTWqsEx,Oqx,JxvtTWqsExS,JltFIFx,AiTTj dCuIC II,HVOCeIC RR,PLL,AVrELmw VOCeIC L",
    ",UL,=D66,A<GIyZjO,GlE,GTWO,HHvE,GF%R,HIVE,G:X,HEVq,GEf,GNhE,ANUMBj Tq,HltHUNDvD,Lx%SkD,AFzCs",
    "l ltQUdTj,NHeF,JxvtQUdTjS,JlEmIXTEqx,NEfH,JxvEmIXTEqxS,ADATtMdK,AiTTj C|LLU NN,P,ORR,OL,PL,O",
    "K,=D81,0ShHeAmw CkDzBhDU,DkUSVdAYA,DVISdGAYA,=D85,8iTTj AYkNA,GAYkNA,GEYkNA,HEYkNA,FIYkNA,GI",
    "YkNA,FUYkNA,GUYkNA,FIRUYkNA,IUYkNA,GLUYkNA,IUYkNA,FEYkNA,GEYkNA,FAIYkNA,FOYkNA,GOYkNA,FAUYkN",
    "A,=D9A,GLPAPzkA KAYkNA,F~uAPzkA KAYkNA,FePAPzkA GAYkNA,F~uAPzkA GAYkNA,FKk&JA NAA:KYAYA,FSkY",
    "AKA GAYkNA,FePAPzkA CAYkNA,F~uAPzkA CAYkNA,FePAPzkA JAYkNA,F~uAPzkA JAYkNA,F&eUJA NAA:KYAYA,",
    "NSkYOOGA NAAK:KYAYA,FSkYAKA JAYkNA,FePAPzkA T&YkNA,F~uAPzkA T&YkNA,FePAPzkA DDAYkNA,F~uAPzkA",
    " DDAYkNA,GUURDuJA NAYkNA,FSkYAKA DDAYkNA,FePAPzkA &YkNA,F~uAPzkA &YkNA,FePAPzkA DAYkNA,F~uAP",
    "zkA DAYkNA,FDk&JA NAYkNA,=DB3,FSkYAKA DAYkNA,FePAPzkA PAYkNA,F~uAPzkA PAYkNA,FePAPzkA BAYkNA",
    ",F~uAPzkA BAYkNA,HYkNA,FAMBA BAYkNA,FYAYkNA,FzYkNA,=DBD,FDk&JA $YkNA,=DC0,FVAYkNA,F&eUJAmAYk",
    "NA,FMUURDuJAmAYkNA,FDk&JAmAYkNA,FuYkNA,FMUURDuJA $YkNA,FFAYkNA,=DCA,8Sw e-$KUNA,=DCF,8VrELmw",
    " AE$-PIL$,JKETs AEDA-PIL$,J<GA AEDA-PIL$,JKETs IS-PIL$,J<GA IS-PIL$,JKETs PAA-PIL$,=DD6,J<GA",
    " PAA-PIL$,=DD8,JGAET&-PIL$,JKOMBUVA,J<GA KOMBUVA,JKOMBU DEKA,OVA uA AE$-PIL$,V<GA AE$-PIL$,V",
    "GAYkUKIT&,JGAYkUKIT&,=DE6,8LIx <GIyZjO,JlE,JTWO,KHvE,JF%R,KIVE,J:X,KEVq,JEf,JNhE,=DF2,8VrELm",
    "w <GA GAET&-PIL$,QYkUKIT&,8PUNCTUAsl KUNDDeIYA,=E01,0TuI CHdACTj KO KAI,GHO KuI,LUAT,LWAI,Ll",
    ",JzKHkG,FNGO NGU,FCHO CHk,LhG,LkG,FSOmO,FCHO CHOE,FYO YhG,FDO CuDA,FTO PA&K,GHO xk,JNkGMlxO,",
    "JPHUTuO,FNO Nq,FDO DEK,FTO &O,GHO xUNG,LAHk,LlG,FNO NU,FBO BAI~I,FPO P$,GHO PHUNG,FFO FA,FPH",
    "O PHk,FFO Fk,FPHOmAMPuO,FMO ~,FYO YAK,F^ RUA,GU,FLO LhG,GU,FWO WAq,FSOmeA,IRU:,ISUA,FHO |P,F",
    "LO CHU$,FO kG,FHO NOKHUK,FPAIYkNOI,FSdA A,F~I Hk-AKAT,FSdA AA,LM,KI,LI,KUE,ME,L,LU,FPHhxU,=E",
    "3F,6URRqCYm> BAHT,6HdACTjmdA E,KAE,KO,KAI ~IMUk,ReAI,F$KKHkGYAO,F~IYAMOK,I&IKHU,I EK,JxO,KRI",
    ",JCuT&WA,FxkTuKuT,FNIKu|T,FYA~KKk,FFlGMk,5<GIyZjO,BlE,BTWO,CHvE,BF%R,CIVE,B:X,CEVq,BEf,BNhE,",
    "5CHdACTj kGKHkKHU,FKHOMUT,=E81,0$O iTTj KO,CHOmUNG,=E84,F&M,=E86,BPeI Gu,BNGO,BCO,BPeI Cu,BS",
    "O &M,=E8C,BPeI Ju,BNYO,BPeI NYA,GT&,Iu,GDDA,Iu,GNNA,BDO,BTO,CHOmUNG,F&M,BPeI Du,BNO,BBO,BPO,",
    "CHOmUNG,BFO &M,BPHO &M,BFOmUNG,BPeI Bu,BMO,BYO,BLO LhG,=EA5,FOOT,=EA7,BWO,BSkSKRITmu,LSA,COm",
    "UNG,BHOmUNG,BPeI L$,BO,BHO &M,4ELLIP:S,4VrELmw A,F~I Kk,FAA,GM,FI,GI,FY,GY,FU,GU,4Sw PeI VIz",
    "~,4VrELmw ~I Kl,4SEMIVrELmw LO,JNYO,=EC0,4VrELmw E,GI,FO,FAY,GI,=EC6,4KO $,=EC8,4Tlt~I EK,Dx",
    "O,EI,DCA&WA,4CkCEL$sl MdK,4NIGGA|&,=ED0,4<GIyZjO,AlE,ATWO,BHvE,AF%R,BIVE,A:X,BEVq,AEf,ANhE,=",
    "EDC,4HO NO,7MO,4iTTj KHMU GO,GNYO,=F00,0sBETkmYL$Bi OM,8MdK GTj YIG MGO TRUNCAToA,Q-UM RNAM ",
    "BCA.~,UGTj TS*G ~,DhIse YIG MGO MDUN ~,DCLOShG YIG MGOmGAB ~,EdEyYIG MGO PHURmu.~,DYIG MGO T",
    "S*Gmu.~,DSBRULmuD,DBSKUR YIG MGO,EKA-mHOG YIG MGO,DhTjSYL$BIC TS*G,DDELIMITj TS*G BSTd,DSuD,",
    "DNYISmuD,DTS*GmuD,DNYI!TS*GmuD,DRh CHqmPUNGSmuD,EGYA GzMmuD,DCdEy-DZU.R&G!MtLlG Ck,DGTj TS*G",
    ",8LOGOTYPEmw Cu.R&GS,MLuG R&GS,8AST^LOGICemwmGz GCk -CHd R&GS,Q-KHYU.PA,QSDlG TSHUGS,8Sw RDE",
    "L DKd GCIG,ONYIS,OSUM,INAG GCIG,NNYIS,IDKd RDEL NAG,8<GIyZjO,ElE,ETWO,FHvE,EF%R,FIVE,E:X,FEV",
    "q,EEf,ENhE,EHeF lE,JTWO,KHvE,JF%R,KIVE,J:X,KEVq,JEf,JNhE,JZjO,8MdK BSDU!R&GS,DNGA!BZUNG NYI ",
    "Z$,DCdEy-DZU.R&G!BZ| MIG Ck,DNGA!BZUNGmG+ R&GS,DCHtMGO,DTSA -PHRU,DGUG R&G!GYl,PAS,DkG KHkG ",
    "GYl,PAS,8Sw Yd TS*S,DMd TS*S,8iTTj KA,Gu,FGA,Gu,FNGA,FCA,Gu,FJA,=F49,FNYA,FT&,Hu,FDDA,Hu,FNN",
    "A,F&,Gu,FDA,Gu,FNA,FPA,Gu,FBA,Gu,F~,FTSA,Hu,FDZA,Hu,FWA,FZu,GA,F-A,FYA,Fz,F$,FSu,GSA,GA,Fu,F",
    "A,FKSSA,FFIXED-F+M z,FKKA,FRz,=F71,8VrELmw AA,JI,KI,JU,KU,JVOCeIC R,SR,RL,SL,JE,KE,JO,KO,8Sw",
    " RJESmU NGA ^,ENAM BCAD,8VrELmw vVjSoI,TI,8Sw NYI Z$ NAA DA,DSNA LDk,8MdK Hek&,DPeU&,8Sw LCI",
    " R&GS,DYkG R&GS,DLCtTSA Ck,DMCHU Ck,DGRU Ck RGYhGS,HMoRGYhGS,DhVjToMCHU Ck,9UBJOhEDmw LCtTSA",
    " Ck,NMCHU Ck,NhVjToMCHU Ck,IiTTj KA,Qu,PGA,Qu,PNGA,PCA,Qu,PJA,=F99,PNYA,PT&,Ru,PDDA,Ru,PNNA,",
    "P&,Qu,PDA,Qu,PNA,PPA,Qu,PBA,Qu,P~,PTSA,Ru,PDZA,Ru,PWA,PZu,QA,P-A,PYA,Pz,P$,PSu,QSA,QA,Pu,PA,",
    "PKSSA,PFIXED-F+M WA,aYA,az,=FBE,8KU RU Ku,H BZ| MIG Ck,8CksL$slmw *AVY BEAT,QLf BEAT,QCkG TE",
    "-U,QSBUB -CHe,8S> DRIL BU,FRDO RJE,FPAD~ GDk,FRDO RJtRGYA GzM,FPHUR PA,FN+ BU,L NYI!-KHYIL,M",
    "GSUM -KHYIL,MBZ| -KHYIL,=FCE,9w RDEL NAG RDEL DKd,MGSUM,8MdK BSKA-mHOG GI MGO RGYk,DMNYAM YI",
    "G GI MGO RGYk,DNYI!TS*G,DhIse BRDA RNYhG YIG MGO MDUN ~,DCLOShG BRDA RNYhG YIG MGOmGAB ~,0Rf",
    "-FAChGmVASsmw,0iFT-FAChGmVASsmw,0Rf-FAChGmVASsmwbDOTS,0iFT-FAChGmVASsmwbDOTS,0sBETk MdK iADh",
    "G MCHk R&GS,DTzILhG MCHk R&GS,=1000,0MYkMd iTTj KA,Gu,FGA,Gu,FNGA,FCA,Gu,FJA,Gu,FNYA,GNYA,FT",
    "&,Hu,FDDA,Hu,FNNA,F&,Gu,FDA,Gu,FNA,FPA,Gu,FBA,Gu,F~,FYA,Fz,F$,FWA,FSA,Fu,FL$,FA,FSHk A,FI,GI",
    ",FU,GU,FE,FMl E,FO,FAU,8VrELmw TeL AA,JAA,JI,KI,JU,KU,JE,JAI,JMl II,NO,JEn,8Sw kUSVdA,DDOyBE",
    "Lr,DVISdGA,Fz~,DASAT,8ClSlkTmw _<e YA,Uz,UWA,Uu,8iTTj GvATmA,8<GIyZjO,ElE,ETWO,FHvE,EF%R,FIV",
    "E,E:X,FEVq,EEf,ENhE,8Sw LITTimECsl,DSECsl,9> LOCAsVE,FCOMPiTED,FAFOvMqslED,FGqIsVE,8iTTjmu,G",
    "SA,FVOCeIC R,OR,NL,OL,8VrELmw VOCeIC R,SR,RL,SL,8iTTj Ml NGA,JJu,JBBA,LE,8ClSlkTmw Ml _<e NA",
    ",Y~,Y$,8iTTjmGAW Kdqmu,8VrELmwmGAW Kdq EU,8TltMdKmGAW Kdq uxI,TKtPHO,8iTTj WESTjN PWO Kdq Tu",
    ",XPWA,8VrELmw WESTjN PWO Kdq EU,bUE,8Sw WESTjN PWO Kdq TlE-1,a2,a3,a4,a5,8iTTj EASTjN PWO Kd",
    "q NNA,XYWA,XGHWA,8VrELmw GEBA Kdq I,JKAYAH OE,PU,PEE,8iTTjmHk KA,Lu,KGA,KCA,KZA,KNYA,KDA,KNA",
    ",KPu,KFA,KBA,KTu,Ku,8ClSlkTmwmHk _<e WA,8VrELmwmHk AA,OE,Pn,OFhe Y,8SwmHk TlE-2,N3,N5,N6,IC%",
    "NCIL TlE-2,V3,QEMPusC TlE,8iTTj RU~I PeAUNG FA,8Sw RU~I PeAUNG TlE-5,9Hk <GIyZjO,JlE,JTWO,KH",
    "vE,JF%R,KIVE,J:X,KEVq,JEf,JNhE,9w KuMs TlE-1,P3,8VrELmw AITl A,QI,8S>mHk lE,KEXC$~sl,0GE+GIk",
    " cak,OBk,OGk,ODl,Oq,OVh,OZq,OTk,Oh,OKk,O$S,OMk,ONd,Ol,OPd,OZHd,OzE,OSk,OTd,OUN,OPHd,OKHd,OGH",
    "k,OQd,OSHh,OCHh,Pk,OJIL,OCIL,PHd,OXk,OJHk,OuE,PE,PIE,OWE,OHd,POE,=10C7,OYN,=10CD,OAq,=10D0,9",
    "iTTj k,GBk,GGk,GDl,Gq,GVh,GZq,GTk,Gh,GKk,G$S,GMk,GNd,Gl,GPd,GZHd,GzE,GSk,GTd,GUN,GPHd,GKHd,G",
    "GHk,GQd,GSHh,GCHh,Hk,GJIL,GCIL,HHd,GXk,GJHk,GuE,HE,HIE,GWE,GHd,HOE,GFI,GYN,GELIFI,GTURNoGk,G",
    "Ah,9PdAGzPHmEPdAT+,0MO<FIj iTTj GE+GIk Nd,0GE+GIk iTTj Aq,GHdDmw,G$BIemw,0HkGUL CHOSElG KIYE",
    "OK,GSSkGKIYEOK,GNIEUN,GsKEUT,GSSkGsKEUT,GRIEUL,GMIEUM,GPIEUP,GSSkGPIEUP,HIOS,HSkG:OS,GIEUNG,",
    "GCIEUC,GSSkGCIEUC,GC|EUCH,GK|EUKH,GxIEUx,GP|EUPH,G|EUH,GNIEUN-KIYEOK,GSSkGNIEUN,GNIEUN-sKEUT",
    ",MPIEUP,GsKEUT-KIYEOK,GRIEUL-NIEUN,GSSkGRIEUL,GRIEUL-|EUH,GKAPYE%NRIEUL,GMIEUM-PIEUP,GKAPYE%",
    "NMIEUM,GPIEUP-KIYEOK,MNIEUN,MsKEUT,M:OS,Q-KIYEOK,RsKEUT,RPIEUP,NSkG:OS,NIOS-CIEUC,MCIEUC,N|E",
    "UCH,MxIEUx,MP|EUPH,GKAPYE%NPIEUP,OSSkGPIEUP,G:OS-KIYEOK,LNIEUN,LsKEUT,LRIEUL,LMIEUM,LPIEUP,Q",
    "-KIYEOK,LSSkG:OS,LIEUNG,LCIEUC,M|EUCH,LK|EUKH,LxIEUx,LP|EUPH,L|EUH,GC|TUEUM:OS,PSkG:OS,HElGC",
    "|EUM:OS,SSkG:OS,GPk:OS,GIEUNG-KIYEOK,MsKEUT,MMIEUM,MPIEUP,M:OS,MPk:OS,GSSkGIEUNG,GIEUNG-CIEU",
    "C,N|EUCH,MxIEUx,MP|EUPH,GYE:EUNG,GCIEUC-IEUNG,H|TUEUMCIEUC,OSSkGCIEUC,HElGC|EUMCIEUC,RSSkGCI",
    "EUC,H|EUCH-K|EUKH,O|EUH,JTUEUMC|EUCH,HElGC|EUMC|EUCH,GP|EUPH-PIEUP,GKAPYE%NP|EUPH,GSSkG|EUH,",
    "GYE+h|EUH,GKIYEOK-sKEUT,GNIEUN-:OS,MCIEUC,M|EUH,GsKEUT-RIEUL,GFILiR,7JUNGSElG FILiR,HA,IE,HY",
    "A,JE,HEO,I,HYEO,J,HO,HWA,JE,HOE,HYO,HU,HWEO,J,II,HYU,HEU,HYI,HI,HA-O,JU,HYA-O,KYO,HEO-O,KU,K",
    "EU,HYEO-O,LU,HO-EO,K,JYE,JO,JU,HYO-YA,ME,LEO,KO,KI,HU-A,KE,JEO-EU,JYE,JU,HYU-A,KEO,L,KYEO,M,",
    "KU,KI,HEU-U,KEU,HYI-U,HI-A,JYA,JO,JU,JEU,JdAEA,HdAEA,M-EO,NU,NI,HSSkGdAEA,HA-EU,HYA-U,IEO-YA",
    ",HO-YA,LE,8lGSElG KIYEOK,HSSkGKIYEOK,HKIYEOK-:OS,HNIEUN,M-CIEUC,N|EUH,HsKEUT,HRIEUL,M-KIYEOK",
    ",NMIEUM,NPIEUP,N:OS,NxIEUx,NP|EUPH,N|EUH,HMIEUM,HPIEUP,M-:OS,H:OS,ISkG:OS,HIEUNG,HCIEUC,I|EU",
    "CH,HK|EUKH,HxIEUx,HP|EUPH,H|EUH,HKIYEOK-RIEUL,O:OS-KIYEOK,HNIEUN-KIYEOK,NsKEUT,N:OS,NPk:OS,N",
    "xIEUx,HsKEUT-KIYEOK,ORIEUL,HRIEUL-KIYEOK-:OS,NNIEUN,NsKEUT,T-|EUH,HSSkGRIEUL,HRIEUL-MIEUM-KI",
    "YEOK,T:OS,NPIEUP-:OS,T|EUH,NKAPYE%NPIEUP,NSSkG:OS,NPk:OS,NK|EUKH,NYE+h|EUH,HMIEUM-KIYEOK,NRI",
    "EUL,NPIEUP,N:OS,OSkG:OS,NPk:OS,NC|EUCH,N|EUH,HKAPYE%NMIEUM,HPIEUP-RIEUL,NP|EUPH,N|EUH,HKAPYE",
    "%NPIEUP,H:OS-KIYEOK,MsKEUT,MRIEUL,MPIEUP,HPk:OS,HIEUNG-KIYEOK,NSSkGKIYEOK,HSSkGIEUNG,HIEUNG-",
    "K|EUKH,HYE:EUNG,P-:OS,QPk:OS,HP|EUPH-PIEUP,HKAPYE%NP|EUPH,H|EUH-NIEUN,NRIEUL,NMIEUM,NPIEUP,H",
    "YE+h|EUH,HKIYEOK-NIEUN,OPIEUP,OC|EUCH,OK|EUKH,O|EUH,HSSkGNIEUN,0ExIOPICmYL$Bi u,JU,JI,JAA,JE",
    "E,K,JO,KA,I$,JU,JI,JAA,JEE,K,JO,JWA,IHu,KU,KI,KAA,KEE,L,KO,KWA,I~,JU,JI,JAA,JEE,K,JO,JWA,ISZ",
    "A,KU,KI,KAA,KEE,L,KO,KWA,Iz,JU,JI,JAA,JEE,K,JO,JWA,ISA,JU,JI,JAA,JEE,K,JO,JWA,Ju,KU,KI,KAA,K",
    "EE,L,KO,KWA,IQA,JU,JI,JAA,JEE,K,JO,KA,JWA,=124A,KI,KAA,KEE,L,=1250,Ju,KU,KI,KAA,KEE,L,KO,=12",
    "58,KWA,=125A,LI,LAA,LEE,M,=1260,IBA,JU,JI,JAA,JEE,K,JO,JWA,IVA,JU,JI,JAA,JEE,K,JO,JWA,I&,JU,",
    "JI,JAA,JEE,K,JO,JWA,ICA,JU,JI,JAA,JEE,K,JO,JWA,IXA,JU,JI,JAA,JEE,K,JO,KA,JWA,=128A,KI,KAA,KE",
    "E,L,=1290,INA,JU,JI,JAA,JEE,K,JO,JWA,JYA,KU,KI,KAA,KEE,L,KO,KWA,IGLOTTe A,QU,QI,QAA,QEE,R,QO",
    ",QWA,IKA,JU,JI,JAA,JEE,K,JO,KA,JWA,=12B2,KI,KAA,KEE,L,=12B8,JXA,KU,KI,KAA,KEE,L,KO,=12C0,KWA",
    ",=12C2,LI,LAA,LEE,M,=12C8,IWA,JU,JI,JAA,JEE,K,JO,KA,IPHdYNGEe A,TU,TI,TAA,TEE,U,TO,=12D8,IZA",
    ",JU,JI,JAA,JEE,K,JO,JWA,Ju,KU,KI,KAA,KEE,L,KO,KWA,IYA,JU,JI,JAA,JEE,K,JO,KA,IDA,JU,JI,JAA,JE",
    "E,K,JO,JWA,JDA,KU,KI,KAA,KEE,L,KO,KWA,IJA,JU,JI,JAA,JEE,K,JO,JWA,IGA,JU,JI,JAA,JEE,K,JO,KA,J",
    "WA,=1312,KI,KAA,KEE,L,=1318,JGA,KU,KI,KAA,KEE,L,KO,KWAA,ITu,KU,KI,KAA,KEE,L,KO,KWA,ICu,KU,KI",
    ",KAA,KEE,L,KO,KWA,IPu,KU,KI,KAA,KEE,L,KO,KWA,ITSA,KU,KI,KAA,KEE,L,KO,KWA,JZA,KU,KI,KAA,KEE,L",
    ",KO,LA,IFA,JU,JI,JAA,JEE,K,JO,JWA,IPA,JU,JI,JAA,JEE,K,JO,JWA,IRYA,IMYA,IFYA,=135D,9COMBhhG G",
    "EMhAsl k.VrEL iNGx MdK,JVrEL iNGx MdK,JGEMhAsl MdK,9SECsl MdK,9W+DSPACE,9FULLmTOP,9COM~,9SEM",
    "ICOLl,9COLl,9PvFACtCOLl,9QUESsl MdK,9PdAGzPHmEPdAT+,9<GIylE,FTWO,GHvE,FF%R,GIVE,F:X,GEVq,FEf",
    ",FNhE,9NUMBj Tq,HWqTY,H|RTY,GF+TY,HIFTY,G:XTY,HEVqTY,GEfY,GNhETY,GHUNDvD,GTq x%SkD,=1380,9SY",
    "L$BimEBATBEIyMWA,IMWI,KEE,L,ISEBATBEIyBWA,IBWI,KEE,L,ISEBATBEIyFWA,IFWI,KEE,L,ISEBATBEIyPWA,",
    "IPWI,KEE,L,9Tle MdK YIZET,KDjET,KRIKRIK,KSH+yRIKRIK,K<FAT,KKqAT,KC|vT,K|DET,KDjET-|DET,KKURT",
    ",=13A0,0CHjOKEtiTTj A,GE,GI,GO,GU,GV,GGA,GKA,GGE,HI,HO,HU,HV,Gu,HE,HI,HO,HU,HV,G$,HE,HI,HO,H",
    "U,HV,G~,HE,HI,HO,HU,GNA,GHNA,GNAH,HE,HI,HO,HU,HV,GQUA,IE,II,IO,IU,IV,GSA,H,HE,HI,HO,HU,HV,GD",
    "A,G&,GDE,GTE,G<,Gs,GDO,HU,HV,H$,GT$,IE,II,IO,IU,IV,HSA,IE,II,IO,IU,IV,GWA,HE,HI,HO,HU,HV,GYA",
    ",HE,HI,HO,HU,HV,GMV,=13F8,9?eaYE,NI,NO,NU,NV,MMV,=1400,1kA<kmYL$BIC!HYPHq,JE,JAAI,JI,KI,JO,K",
    "O,JY-CvtOO,JCdRIj EE,RI,JA,KA,JWE,LST-CvtWE,KI,KEST-CvtWI,KII,KEST-CvtWII,KO,KEST-CvtWO,KOO,",
    "KEST-CvtWOO,JNASKAPI WOO,JWA,KEST-CvtWA,KAA,KEST-CvtWAA,JNASKAPI WAA,JAI,JY-CvtW,JGLOTTemTOP",
    ",JFhe ACUTE,PGzVE,PBOTTOM HeF RhG,PTOP HeF RhG,PRf HeF RhG,RNG,PD%Bi ACUTE,WSH+yVjsCemT^KES,",
    "PMIDDi DOT,PSH+yH+IZlTemT^KE,PPLUS,PDrN &CK,Jq,Jh,Jl,Jk,JPE,KAAI,KI,LI,KO,LO,JY-CvtPOO,JCdRI",
    "j *E,SI,JPA,LA,KWE,JWEST-CvtPWE,JPWI,JWEST-CvtPWI,JPWII,JWEST-CvtPWII,JPWO,JWEST-CvtPWO,JPWO",
    "O,JWEST-CvtPWOO,JPWA,JWEST-CvtPWA,JPWAA,JWEST-CvtPWAA,JY-CvtPWAA,JP,JWEST-CvtP,JCdRIj H,JTE,",
    "KAAI,KI,LI,KO,LO,JY-CvtTOO,JCdRIj DEE,SI,J&,LA,KWE,JWEST-CvtTWE,JTWI,JWEST-CvtTWI,JTWII,JWES",
    "T-CvtTWII,JTWO,JWEST-CvtTWO,JTWOO,JWEST-CvtTWOO,JTWA,JWEST-CvtTWA,JTWAA,JWEST-CvtTWAA,JNASKA",
    "PI TWAA,JT,KTE,LI,LO,LA,JKE,KAAI,KI,LI,KO,LO,JY-CvtKOO,JKA,LA,KWE,JWEST-CvtKWE,JKWI,JWEST-Cv",
    "tKWI,JKWII,JWEST-CvtKWII,JKWO,JWEST-CvtKWO,JKWOO,JWEST-CvtKWOO,JKWA,JWEST-CvtKWA,JKWAA,JWEST",
    "-CvtKWAA,JNASKAPI KWAA,JK,KW,JS%x-S$VEY KEH,XIH,XOH,XAH,JCE,KAAI,KI,LI,KO,LO,JY-CvtCOO,JCA,L",
    "A,KWE,JWEST-CvtCWE,JCWI,JWEST-CvtCWI,JCWII,JWEST-CvtCWII,JCWO,JWEST-CvtCWO,JCWOO,JWEST-CvtCW",
    "OO,JCWA,JWEST-CvtCWA,JCWAA,JWEST-CvtCWAA,JNASKAPI CWAA,JC,JSAYI: x,J_,KAAI,KI,LI,KO,LO,JY-Cv",
    "tMOO,J~,LA,KWE,JWEST-CvtMWE,JMWI,JWEST-CvtMWI,JMWII,JWEST-CvtMWII,JMWO,JWEST-CvtMWO,JMWOO,JW",
    "EST-CvtMWOO,JMWA,JWEST-CvtMWA,JMWAA,JWEST-CvtMWAA,JNASKAPI MWAA,JM,JWEST-CvtM,JMH,JATuPASCk ",
    "M,JSAYI: M,JNE,KAAI,KI,LI,KO,LO,JY-CvtNOO,JNA,LA,KWE,JWEST-CvtNWE,JNWA,JWEST-CvtNWA,JNWAA,JW",
    "EST-CvtNWAA,JNASKAPI NWAA,K,JCdRIj NG,JNH,Ji,KAAI,KI,LI,KO,LO,JY-CvtLOO,J$,LA,KWE,JWEST-CvtL",
    "WE,JLWI,JWEST-CvtLWI,JLWII,JWEST-CvtLWII,JLWO,JWEST-CvtLWO,JLWOO,JWEST-CvtLWOO,JLWA,JWEST-Cv",
    "tLWA,JLWAA,JWEST-CvtLWAA,JL,JWEST-CvtL,J_<e L,JSE,KAAI,KI,LI,KO,LO,JY-CvEmOO,JSA,LA,KWE,JWES",
    "T-CvEmWE,JSWI,JWEST-CvEmWI,JSWII,JWEST-CvEmWII,JSWO,JWEST-CvEmWO,JSWOO,JWEST-CvEmWOO,JSWA,JW",
    "EST-CvEmWA,JSWAA,JWEST-CvEmWAA,JNASKAPImWAA,JS,JATuPASCkm,JSW,JB$CKFOOTm,JMOOSE-CvEmK,JNASKA",
    "PImKW,S-W,SPWA,STWA,SKWA,SCWA,JS*,LI,MI,LO,MO,LA,MA,LWE,JWEST-CvEmHWE,JSHWI,JWEST-CvEmHWI,JS",
    "HWII,JWEST-CvEmHWII,JSHWO,JWEST-CvEmHWO,JSHWOO,JWEST-CvEmHWOO,JSHWA,JWEST-CvEmHWA,JSHWAA,JWE",
    "ST-CvEmHWAA,JSH,JYE,KAAI,KI,LI,KO,LO,K-CvtYOO,KA,LA,KWE,JWEST-CvtYWE,JYWI,JWEST-CvtYWI,JYWII",
    ",JWEST-CvtYWII,JYWO,JWEST-CvtYWO,JYWOO,JWEST-CvtYWOO,JYWA,JWEST-CvtYWA,JYWAA,JWEST-CvtYWAA,J",
    "NASKAPI YWAA,JY,JBIBi-CvtY,JWEST-CvtY,JSAYI: YI,Jv,K-Cvtv,JWEST-Cvti,JzAI,KI,LI,KO,LO,JWEST-",
    "CvtLO,Jz,LA,JWEST-Cvt$,JRWAA,JWEST-CvtRWAA,JR,JWEST-CvtR,J_<e R,JFE,KAAI,KI,LI,KO,LO,KA,LA,K",
    "WAA,JWEST-CvtFWAA,JF,JxE,JN-CvtxE,JxI,JN-CvtxI,JxII,JN-CvtxII,JxO,MO,LA,MA,LWAA,JWEST-CvtxWA",
    "A,Jx,KxE,MI,MO,MA,M,KYE,LI,LO,LA,JNUNAVIK *,SI,TI,SO,TO,SA,TA,S,OUyH,JHK,JQAAI,KI,LI,KO,LO,K",
    "A,LA,K,JTL*,MI,MO,MA,JWEST-Cvtv,UI,UO,UA,JNGAAI,LI,MI,LO,MO,LA,MA,L,KNG,JSAYI:m*,SI,SO,SA,JW",
    "OODS-CvtxE,WI,WO,WA,W,JL|,MI,LO,MO,LA,MA,L,Jx-CvtxE,TI,UI,TO,UO,TA,UA,T,JAIVILIK B,JB$CKFOOy",
    "E,TI,TO,TA,TWE,UI,UO,UA,TNE,UI,UO,UA,TKE,UI,UO,UA,JSAYI: *,RI,RO,RA,JCdRIj GHU,TO,TE,UE,TI,T",
    "A,RRU,SO,SE,TE,SI,SA,RWU,SO,SE,TE,SI,SA,RHWU,TO,TE,UE,TI,TA,RxU,TO,TE,UE,TI,TA,STU,TO,TE,UE,",
    "TI,TA,RPU,SO,SE,TE,SI,SA,S,RGU,SO,SE,TE,SI,SA,RKHU,TO,TE,UE,TI,TA,SKU,TO,TE,UE,TI,TA,T,RNU,S",
    "O,SE,TE,SI,SA,RMU,SO,SE,TE,SI,SA,RYU,SO,SE,TE,SI,SA,RJU,JSAYI: JU,JCdRIj JO,SE,TE,SI,JSAYI: ",
    "JI,JCdRIj JA,SJU,TO,TE,UE,TI,TA,RLU,SO,SE,TE,SI,SA,RDLU,TO,TE,UE,TI,TA,RLHU,TO,TE,UE,TI,TA,R",
    "TLHU,UO,UE,VE,UI,UA,TU,TO,TE,UE,TI,TA,RZU,SO,SE,TE,SI,SA,S,RhIse Z,RDZU,TO,TE,UE,TI,TA,RSU,S",
    "O,SE,TE,SI,SA,SHU,TO,TE,UE,TI,TA,T,RTSU,TO,TE,UE,TI,TA,RCHU,TO,TE,UE,TI,TA,RTTSU,UO,UE,VE,UI",
    ",UA,K|mw,JFULLmTOP,JQAI,JNGAI,KNGI,NI,MO,NO,MA,NA,JWOODS-CvtxWEE,XI,YI,XO,YO,XA,YA,UFhe x,JB",
    "$CKFOOyW,0OGuMmPACtMdK,6iTTj BEIx,DLUIS,DFEdN,DSAIL,DNIl,DUAx,DDAIR,DThNE,DCOLL,EEIRT,DMUh,D",
    "G+T,DNGEADe,DSTzIF,DRUIS,DAILM,DlN,DUR,DEADuDH,DIODuDH,DEABuDH,D+,DUILikN,DIFh,DEAMHkCHOLL,D",
    "PEIx,6FEAxj MdK,6vVjSoFEAxj MdK,=16A0,0RUNIC iTTj FEHU FEOH FtF,DV,DURUZ UR U,DYR,E,DW,DxURI",
    "SAZ xUR!x+N,DEx,DkSUZ A,DO!O,DAC A,EESC,DLlG-BRkCH-OS!O,DSH+T-TWIG-OS!O,DO,EE,EN,DzIDO z.vI.",
    "R,DKAUNA,DCq,DKAUN K,DG,DqG,DGEBO GYFU G,Ed,DWUNJO WYNN W,DuG$Z H,FEGL H,DLlG-BRkCH-uGeL H,D",
    "SH+T-TWIG-uGeL H,DNAU<Z NY.NAU.N,DSH+T-TWIG-NAU.N,DDOTTED-N,DISAZ I!IS!I,DE,DJjk J,DGj,DLlG-",
    "BRkCH-d AE,DSH+T-TWIG-d A,DIWAZ EOH,DPjxO PE+x P,DeGIZ EOLHX,DSrILOm,EIGEL LlG-BRkCH-SOLm,EH",
    "+T-TWIG-SOLm,DC,DZ,DsWAZ sR TYR T,DSH+T-TWIG-TYR T,DD,DBjKkk BE+C BJdKk B,DSH+T-TWIG-BJdKk B",
    ",DDOTTED-P,DOPq-P,DEHWAZ EH E,DMkNAZ Mk M,DLlG-BRkCH-~DR M,DSH+T-TWIG-~DR M,D$UKAZ $GU LOGR ",
    "L,DDOTTED-L,DhGWAZ,G,DDAGAZ DAEG D,DOxek ExEL O,DEd,DI+,DCWE+x,EeC,EEeC,DSTk,DLlG-BRkCH-YR,D",
    "SH+T-TWIG-YR,DICELk<C-YR,DQ,DX,6ShGi PUNCTUAsl,6MULsPi PUNCTUAsl,6C^S!PUNCTUAsl,6d$UGm>,6TVI",
    "~DURm>,6BELGx+m>,6iTTj K,DSH,DOO,DFRkK!CASKEyOS,RIS,REH,RAC,SESC,=1700,0&GeOG iTTj A,FI,FU,F",
    "KA,FGA,FNGA,F&,FDA,FNA,FPA,FBA,F~,FYA,Fz,F$,FWA,FSA,Fu,8VrELmw I,JU,8Sw VIz~,DPAMUDPOD,=171F",
    ",8iTTj dCuIC z,0HkUNOO iTTj A,FI,FU,FKA,FGA,FNGA,F&,FDA,FNA,FPA,FBA,F~,FYA,Fz,F$,FWA,FSA,Fu,",
    "8VrELmw I,JU,8Sw PAMUDPOD,0P|LIPPhEmhGi PUNCTUAsl,BD%Bi PUNCTUAsl,=1740,0BU|.iTTj A,DI,DU,DK",
    "A,DGA,DNGA,D&,DDA,DNA,DPA,DBA,D~,DYA,Dz,D$,DWA,DSA,Du,6VrELmw I,HU,=1760,0&GBkWA iTTj A,GI,G",
    "U,GKA,GGA,GNGA,G&,GDA,GNA,GPA,GBA,G~,GYA,=176E,G$,GWA,GSA,=1772,9VrELmw I,KU,=1780,0KHMj iTT",
    "j KA,Eu,EO,EHO,DNGO,DCA,Eu,EO,EHO,DNYO,DDA,DTTu,DDO,DTxO,DNNO,D&,Eu,EO,EHO,DNO,DBA,DPu,EO,EH",
    "O,DMO,DYO,D^,DLO,DVO,DSu,ESO,EA,Du,D$,DQA,6hDEPqDqyVrEL QAQ,QA,PI,QI,PU,QK,QU,RV,ORY,QY,OLY,",
    "QY,OQE,PAI,POO TYPtlE,XTWO,PAU,6VrEL hHjqyAQ,MA,CSw AA,HI,II,HY,IY,HU,IU,IA,HOE,HYA,HIE,HE,H",
    "AE,II,HOO,HAU,6Sw NIKA|T,BvAHMUK,BYUUKeEAPhTU,BMUU:KATOk,BTRIISAP,BBkTOC,B^BAT,BTOkDAK|AT,BK",
    "AKABAT,BAHSDA,BSAMYOKmkNYA,BVIRIAM,BCOqG,BBATu~SAT,BKHk,BBdIYOOSk,BCAMNUC PII KUUH,BiK TOO,B",
    "BEYYe,BPHNAEK MUk,BKOOMUUT,6CURRqCYm> RIEL,6Sw AVAKzuSkYA,CTTuCk,=17E0,6<GIyZjO,ClE,CTWO,DHv",
    "E,CF%R,DIVE,C:X,DEVq,CEf,CNhE,=17F0,6S> iK AT&Kml,NMUOY,NPII,NBEI,OUl,NPzM,R-MUOY,SPII,SBEI,",
    "TUl,=1800,0MlGOLIk BIRGA,AELLIP:S,ACOM~,AFULLmTOP,ACOLl,AF%R DOTS,ATODOmOFyHYPHq,A:BEmYL$Bi ",
    "B%NDdY MdKj,AMkCHU COM~,HFULLmTOP,ANIRUGU,AFvtVdIAslmEiCT+ lE,YTWO,ZHvE,AVrELmEPdAT+,AFvtVdI",
    "AslmEiCT+ F%R,A<GIyZjO,GlE,GTWO,HHvE,GF%R,HIVE,G:X,HEVq,GEf,GNhE,=1820,AiTTj A,HE,HI,HO,HU,H",
    "OE,HUE,HEE,HNA,HkG,HBA,HPA,HQA,HGA,H~,H$,HSA,Iu,H&,HDA,HCu,HJA,HYA,Hz,HWA,HFA,HKA,Iu,HTSA,HZ",
    "A,HuA,HZz,HLu,HZ|,HC|,HTODO LlG VrELmw,ME,MI,MO,MU,MOE,MUE,MkG,MBA,MPA,MQA,MGA,M~,M&,MDA,MCu",
    ",MJA,MTSA,MYA,MWA,MKA,MGAA,MuA,MJIA,MNIA,MDZA,H:BtE,MI,NY,MUE,N,MkG,MKA,MGA,Mu,MPA,MSu,M&,MD",
    "A,MJA,MFA,MGAA,MuA,MTSA,MZA,MzA,MCu,MZu,HMkCHU I,OKA,Oz,OFA,OZu,HCubTWO DOTS,=1880,HeI GeI k",
    "USVdA lE,QVISdGA lE,QDAMdU,QUBADA~,QhVjToUBADA~,QBeUDA,QxvtBeUDA,QA,QI,QKA,QNGA,QCA,QT&,Su,Q",
    "DDA,QNNA,Q&,QDA,QPA,Ru,QSSA,QZu,RA,QAH,HTODO eI GeI &,VZu,HMkCHU eI GeI Gu,XNGA,XCA,XJu,XT&,",
    "XDDu,X&,XDu,XSSA,XCYA,XZu,YA,HeI GeI HeF U,VYA,HMkCHU eI GeI Bu,HeI GeI DAGeGA,HMkCHU eI GeI",
    " Lu,=18B0,0CkA<kmYL$BIC!OY,JAY,KAY,JWAY,JPOY,KAY,KWOY,J&Y,JKAY,KWAY,J~Y,JNOY,KAY,J$Y,JSOY,KA",
    "Y,KHOY,LAY,LWOY,JYOY,KAY,JzY,JNWI,JOJIBWAY NWI,JNWII,JOJIBWAY NWII,JNWO,JOJIBWAY NWO,JNWOO,J",
    "OJIBWAY NWOO,JRWEE,LI,MI,LO,MO,LA,JOJIBWAY P,RT,RK,RC,RM,RN,RS,SH,JEASTjN W,JWESTjN W,JFhemM",
    "eL RhG,PzISoDOT,JR-CvtRWE,JWEST-CvtLOO,UAA,JxWE,MA,KxWE,MOO,MAA,KLHWE,MOO,JSAYI:mHWE,SOO,QHO",
    "O,JCdRIj GWU,RDqtGEE,RGAA,SWA,JSAYI: JUU,JCdRIj JWA,JBEAVj DqtL,VR,JCdRIj DqTem,=1900,0LIMBU",
    " VrEL-CdRIj iTTj,6iTTj KA,Eu,DGA,Eu,DNGA,DCA,Eu,DJA,Eu,DYk,D&,Eu,DDA,Eu,DNA,DPA,Eu,DBA,Eu,D~",
    ",DYA,Dz,D$,DWA,DSu,ESA,EA,Du,DGYk,DTz,=1920,6VrELmw A,HI,HU,HEE,HAI,HOO,HAU,HE,HO,6SUBJOhoiT",
    "Tj YA,Nz,NWA,=1930,7MeaKA,JNGA,JkUSVdA,J&,JNA,JPA,J~,Jz,J$,7w MUKPHRqG,BKEMPHRqG,BSA-I,=1940",
    ",BLOO,=1944,6EXC$~sl MdK,6QUESsl MdK,6<GIyZjO,ClE,CTWO,DHvE,CF%R,DIVE,C:X,DEVq,CEf,CNhE,0&I ",
    "i iTTj KA,EXA,ENGA,ETSA,ESA,EYA,E&,Fu,E$,EPA,Fu,E~,EFA,EVA,Eu,EQA,EKu,ETSu,ENA,EA,EI,EEE,FH,",
    "EU,EOO,F,EUE,EE,EAUE,FI,=1970,ETlE-2,J3,J4,J5,J6,=1980,0NEW &I LUtiTTj |GH QA,JLr QA,J|GH KA",
    ",OXA,ONGA,JLr KA,NXA,NNGA,J|GH TSA,OSA,OYA,JLr TSA,NSA,NYA,J|GH &,Pu,ONA,JLr &,Ou,NNA,J|GH P",
    "A,Pu,O~,JLr PA,Ou,N~,J|GH FA,OVA,O$,JLr FA,NVA,N$,J|GH u,ODA,OBA,JLr u,NDA,NBA,J|GH KVA,OXVA",
    ",JLr KVA,NXVA,J|GHmUA,JLrmUA,=19B0,CVrELmw VrELmH+Tqj,NAA,NII,NU,OU,NE,NAE,NO,OA,NUE,NAY,OAY",
    ",NUY,NOY,OAY,NUEY,NIY,CiTTj Fhe V,PNG,Q,PM,PK,PD,PB,CTltMdK-1,M2,=19D0,C<GIyZjO,IlE,ITWO,JHv",
    "E,IF%R,JIVE,I:X,JEVq,IEf,INhE,CTuM <GIylE,=19DE,CSw $E,KV,0KHMjm> PATu~SAT,DMUOY KOET,DPII K",
    "OET,DBEI KOET,EUl KOET,DPzM KOET,H-MUOY KOET,IPII KOET,IBEI KOET,JUl KOET,DDAP KOET,G-MUOY K",
    "OET,HPII KOET,HBEI KOET,IUl KOET,HPzM KOET,DTUTEYASAT,DMUOY ^C,DPII ^C,DBEI ^C,EUl ^C,DPzM ^",
    "C,H-MUOY ^C,IPII ^C,IBEI ^C,JUl ^C,DDAP ^C,G-MUOY ^C,HPII ^C,HBEI ^C,IUl ^C,HPzM ^C,0BUGhESt",
    "iTTj KA,GGA,GNGA,IKA,GPA,GBA,G~,HPA,G&,GDA,GNA,Hz,GCA,GJA,GNYA,ICA,GYA,Gz,G$,GVA,GSA,GA,Gu,9",
    "VrELmw I,KU,KE,KO,KAE,=1A1E,9Pe$WA,9q.OFmECsl,0&I TuM iTTj |GH KA,Mu,MXA,GLr KA,LXA,Lu,GNGA,",
    "G|GH CA,Mu,GLr CA,KSA,KCu,GNYA,Gz&,G|GH zTu,GDA,GLr zTu,GRkA,G|GH &,Mu,GLr &,Lu,GNA,GBA,G|GH",
    " PA,Mu,LFA,GLr PA,KFA,KPu,G~,GLr YA,G|GH YA,Gz,HUE,G$,HUE,GWA,G|GHmu,MSA,MA,Lu,GL$,GA,GLr u,",
    "GI,HI,GU,HU,GEE,GOO,G$E,GGvATmA,9ClSlkTmw _<e z,V$,O$ TkG $I,9Sw ~I KkG $I,9ClSlkTmw Fhe NGA",
    ",OLr PA,O|GH zTu + Lr PA,O~,OBA,OSA,=1A60,9SwmAKOT,9VrELmw A,K~ImAT,KAA,KTeL AA,KI,LI,KUE,LU",
    "E,L,LU,KO,LA BELr,LY,KE,KAE,KOO,KAI,KTuM AI,KOAn,9Sw ~I KkG,ETlE-1,J2,EKHUq TlE-3,P4,P5,Ez u",
    "AM,E~ImAM,EKHUq-LUtKdk,=1A7F,9COMBhhG CRYPTOGzMMIC DOT,9HOz <GIyZjO,KlE,KTWO,LHvE,KF%R,LIVE,",
    "K:X,LEVq,KEf,KNhE,=1A90,9TuM <GIyZjO,KlE,KTWO,LHvE,KF%R,LIVE,K:X,LEVq,KEf,KNhE,=1AA0,9Sw WIk",
    "G,JWAAK,ESAWk,EKEr,EHOY,EDOK~I,EvVjSo^&ToRkA,E~I YAMOK,EKAk,IKUU,ESATKAk,LKUU,EHkG,ECAkG,=1A",
    "B0,0COMBhhG D%Bi.;UMFiX ACCqT,BIAjE:S-RhG,AhFhITY,ADrNWdD!dRr,ATRIPi DOT,AX-X BELr,AWIGGLY L",
    "htBELr,AOPq MdK BELr,AD%Bi OPq MdK BELr,ALf CqTReIZAslmT^KtBELr,ASTRlG CqTReIZAslmT^KtBELr,A",
    "PdqxESESn,AD%Bi PdqxESESn,APdqxESE!BELr,MOVj$Y,A$ThmMeaW BELr,TTURNoW BELr,BEFyPdqxE:Sn iFT,",
    "ARf PdqxE:Sn Rf,AiFyPdqxE:!BELr iFT,ARf PdqxE:!BELr Rf,ASQUdtBzCKETSn,ANUMBjmwn,AhVjToD%Bi d",
    "CHn,APLUSmwn,AD%Bi PLUSmwn,RBELr,ATRIPi ACUTtACCqT,A$ThmMeahSULd G,bR,bT,=1B00,0BehESEmw ULU",
    " RICEM,ICkDz,ECECEK,ESURkG,EBISAH,9iTTj AKdA,L TEDUNG,GIKdA,L TEDUNG,GUKdA,L TEDUNG,Gz vPA,N",
    " TEDUNG,G$ iNGA,O TEDUNG,GEKdA,GAIKdA,GOKdA,L TEDUNG,GKA,I ~uPRkA,GGA,I GOz,GNGA,GCA,I $CA,G",
    "JA,I JjA,GNYA,G& $sK,JMURDA ~uPRkA,GDA MURDA ePAPRkA,P~uPRkA,GNA zMBAT,G&,I &WA,GDA,I ~DU,GN",
    "A,GPA,I KAPe,GBA,I KEMBkG,G~,GYA,Gz,G$,GWA,GSAmAGA,LPA,I,Gu,9Sw RjEKk,9VrELmw TEDUNG,KULU,Nm",
    "dI,KSUKU,O ILUT,Kz vPA,R TEDUNG,K$ iNGA,S TEDUNG,KTehG,Q vPA,RTEDUNG,RvPA TEDUNG,KPEPET,P TE",
    "DUNG,9ADEG ADEG,9iTTj KAFmASAK,HHOTmASAK,GTZIRmASAK,GEFmASAK,GVEmASAK,GZemASAK,GASYUzmASAK,H",
    "RCuIC JNYA,=1B50,9<GIyZjO,FlE,FTWO,GHvE,FF%R,GIVE,F:X,GEVq,FEf,FNhE,9Pks,B~DA,9WhDU,9CdIK PA",
    "MUNGKAH,F:KI,FPdjq,9PAMqqG,9MU:Cem> DlG,PqG,PUNG,PkG,SmURkG,PhG,PAqG,PEUNG,PAhG,QNG GEDE,OCO",
    "MBhhG TEGEH,YqDEP,YKEMPUL,cLI,YJEGOGk,YKEMPULbJEGOGk,cLIbJEGOGk,YBqDE,YGlG,ORf-Hk.OPq DUG,fA",
    "G,ZCLOSoTUK,hAK,OiFT-Hk.OPq PkG,eUNG,YCLOSoP$K,hUK,YOPq PhG,9Pks LkTkG,B~DA LkTkG,=1B80,0SUN",
    "DkESEmw PkYECEK,IG$Yd,JWISAD,AiTTj A,HI,HU,HAE,HO,HE,IU,HKA,HQA,HGA,HNGA,HCA,HJA,HZA,HNYA,H&",
    ",HDA,HNA,HPA,HFA,HVA,HBA,H~,HYA,Hz,H$,HWA,HSA,HXA,Hu,AClSlkTmw PAMhGKe,RNYAKz,TIKU,AVrELmw P",
    "kGHULU,OYUKU,OAE$qG,OOLlG,N_PET,NNEUiUNG,ASw PA~AEH,FVIz~,AClSlkTmw PASkGk ~,YWA,AiTTj Ku,HS",
    "YA,A<GIyZjO,GlE,GTWO,HHvE,GF%R,HIVE,G:X,HEVq,GEf,GNhE,AAVAGzu,AiTTj vU,HiU,HBu,HFhe K,NM,0BA",
    "&K iTTj A,D:MeUNGUN A,Du,D:MeUNGUN u,DMkDAILhG u,DBA,DKdO BA,DPA,D:MeUNGUN PA,DNA,DMkDAILhG ",
    "NA,DWA,D:MeUNGUN WA,DPAKPAK WA,DGA,D:MeUNGUN GA,DJA,DDA,Dz,D:MeUNGUN z,D~,D:MeUNGUN ~,E%xjN ",
    "&,DN+xjN &,DSA,EIMeUNGUNmA,DMkDAILhGmA,DYA,D:MeUNGUN YA,DNGA,D$,D:MeUNGUN $,DNYA,DCA,DNDA,DM",
    "BA,DI,DU,6Sw TOMPI,6VrELmw E,HPAKPAK E,HEE,HI,HKdO I,HO,HKdO O,HU,I F+mIMeUNGUNmA,6ClSlkTmw ",
    "NG,LH,6PkGO$T,9lGlk,=1BFC,6S> BhDU NA _TEK,JPhdBOzS,JJUDUL,JPkGO$T,0iPCu iTTj KA,F$,Fu,EGA,F",
    "$,ENGA,ECA,Fu,EJA,ENYA,E&,Fu,EDA,ENA,EPA,F$,Fu,EFA,F$,EBA,F$,E~,F$,ETSA,Gu,EDZA,EYA,Ez,E$,Eu",
    ",F$,EVA,ESA,Fu,EWA,EA,7SUBJOhoiTTj YA,Oz,7VrELmw AA,II,IO,JO,IU,JU,IE,7ClSlkTmw K,MM,ML,MN,M",
    "P,MR,MT,MNYh-DO,MKkG,7Sw Rk,CNUK&,=1C3B,7PUNCTUAsl &-^L,JNYEyxYOOM &-^L,JCj-WA,JTSHOOK Cj-WA",
    ",P,7<GIyZjO,DlE,DTWO,EHvE,DF%R,EIVE,D:X,EEVq,DEf,DNhE,=1C4D,7iTTj T&,Gu,EDDA,0OL C|KI <GIyZj",
    "O,FlE,FTWO,GHvE,FF%R,GIVE,F:X,GEVq,FEf,FNhE,9iTTj $,GAT,HG,HNG,HL,G$A,GAAK,IJ,IM,IW,GLI,GIS,",
    "HH,HNY,HR,GLU,GUC,HD,HNN,HY,Gi,GEP,HDD,HN,HRR,GLO,GOTT,HB,HV,HH,9MU TTUDDAG,9GAAH$A TTUDDAAG",
    ",9MU-GAAH$A TTUDDAAG,9v$A,9PudKAA,9AuD,9PUNCTUAsl MUCAAD,LD%Bi MUCAAD,0CYRILLICmMeaR%NDoVE,M",
    "LlG-iGGoDE,MNdRr O,MWIDtES,MTeL TE,NHvE-iGGoTE,NeL HdDmw,RYAT,MUNBiNDoUK,=1C90,0GE+GIk M&VRU",
    "LI cak,XBk,XGk,XDl,Xq,XVh,XZq,XTk,Xh,XKk,X$S,XMk,XNd,Xl,XPd,XZHd,XzE,XSk,XTd,XUN,XPHd,XKHd,X",
    "GHk,XQd,XSHh,XCHh,Yk,XJIL,XCIL,YHd,XXk,XJHk,XuE,YE,YIE,XWE,XHd,YOE,XFI,XYN,XELIFI,XTURNoGk,X",
    "Ah,=1CBD,Yq,XHdDmw,X$BIemw,0SUNDkEStPUNCTUAsl BhDUmURYA,SPkGLlG,TURNA~,SCAKz,SiUmATkGA,SKAmA",
    "TkGA,SDAmATkGA,SBAmATkGA,=1CD0,0VE<C TltKdSHkA,BSHdA,BPRqKu,6Sw NIHSHVASA,BYAJURVE<C MIDLhEm",
    "VdI&,6TltYAJURVE<C AGGzVATohDEPqDqTmVdI&,MhDEPqDqTmVdI&,MKATuKA hDEPqDqTmVdI&,BCkDz BELr,BYA",
    "JURVE<C KATuKA hDEPqDqTmVdI&mCH^EDj,BD%BimVdI&,BTRIPimVdI&,BKATuKA kUDAT&,BDOyBELr,BTWO DOT!",
    "BELr,CHvtDOT!BELr,BRIGVE<C KASHMIRI hDEPqDqTmVdI&,BAxdVAVE<C hDEPqDqTmVdI&,6Sw VISdGAmVdI&,J",
    "UDAT&,BvVjSoVISdGA UDAT&,BVISdGA kUDAT&,BvVjSoVISdGA kUDAT&,BVISdGA UDAT&b&IL,JkUDAT&b&IL,Bk",
    "USVdA kTdGOMUKu,KBA|RGOMUKu,KVA~GOMUKu,Vb&IL,BsRYAK,B*XIF+M LlG kUSVdA,BLlG kUSVdA,BRxkG LlG",
    " kUSVdA,BkUSVdA UBuYATO MUKu,CRDuVISdGA,B^&TodDuVISdGA,6TltCkDzn,6Sw JIHVAMULIYA,BUPADHMkIYA",
    ",BAsKz~,6TltRhGn,BD%Bi RhGn,6Sw D%Bi kUSVdA kTdGOMUKu,=1D00,0$Th iTTjmMeL cL A,SE,6?eaTURNoA",
    "E,6iTTjmMeL cL BdRoB,RC,RD,REx,S,6?eaTURNoOPq E,QI,6iTTjmMeL cL J,RK,RLbST^KE,RM,RvVjSoN,RO,",
    "SPq O,6?ea:DEWAY!O,TPq O,TbST^KE,JTURNoOE,6iTTjmMeL cL %,6?eaTOP HeF O,JBOTTOM HeF O,6iTTjmM",
    "eL cL P,RvVjSoR,RTURNoR,S,RU,6?ea:DEWAY!U,S<AjE:ZoU,STURNoM,6iTTjmMeL cL V,RW,RZ,REZH,DVOICo",
    "LdYNGEemPIRkT,DAh,0GvEK iTTjmMeL cL GAM~,R$MDA,RPI,RRHO,RP:,0CYRILLIC iTTjmMeL cL EL,0MO<FIj",
    " iTTj cL A,PE,OB,PdRoB,OD,OE,OvVjSoE,OG,OH,OI,OJ,OK,OL,OM,ON,OvVjSoN,OO,PU,OP,OR,OT,OU,OW,G?",
    "eL A,MTURNoA,MePu,MTURNoAE,MB,MD,ME,MSCHWA,MOPq E,MTURNoOPq E,MG,MTURNoI,MK,MM,MqG,MO,NPq O,",
    "MTOP HeF O,MBOTTOM HeF O,MP,MT,MU,M:DEWAY!U,MTURNoM,MV,MAh,MBE&,MGvEK GAM~,MDEL&,MGvEK P|,MC",
    "|,0$ThmUBSCRIPTmMeaI,TR,TU,TV,0GvEKmUBSCRIPTmMeaBE&,TGAM~,TRHO,TP|,TC|,0$ThmMeaUE,JBbMIDDi s",
    "LDE,JDbMIDDi sLDE,JFbMIDDi sLDE,JMbMIDDi sLDE,JNbMIDDi sLDE,JPbMIDDi sLDE,JRbMIDDi sLDE,QFIS",
    "HHOOK k.MIDDi sLDE,JSbMIDDi sLDE,JTbMIDDi sLDE,JZbMIDDi sLDE,JTURNoG,0MO<FIj iTTj CYRILLIC q",
    ",0$ThmMeahSULd G,JxbSTRIKExR%GH,CcaIbST^KE,CiTTj IO&bST^KE,JPbST^KE,CcaUbST^KE,CiTTj UP:LlbS",
    "T^KE,JBbPeATe HOOK,JDbPeATe HOOK,JFbPeATe HOOK,JGbPeATe HOOK,JKbPeATe HOOK,JLbPeATe HOOK,JMb",
    "PeATe HOOK,JNbPeATe HOOK,JPbPeATe HOOK,JRbPeATe HOOK,JSbPeATe HOOK,JESHbPeATe HOOK,JVbPeATe ",
    "HOOK,JXbPeATe HOOK,JZbPeATe HOOK,JAbvT^FiX HOOK,KLPubvT^FiX HOOK,JDbHOOK k.&IL,JEbvT^FiX HOO",
    "K,JOPq EbvT^FiX HOOK,JvVjSoOPq EbvT^FiX HOOK,JSCHWAbvT^FiX HOOK,JIbvT^FiX HOOK,JOPq ObvT^FiX",
    " HOOK,JESHbvT^FiX HOOK,JUbvT^FiX HOOK,JEZHbvT^FiX HOOK,0MO<FIj iTTjmMeL TURNoePu,MC,NbCURL,M",
    "Ex,MvVjSoOPq E,MF,MDOTiS!JbST^KE,MSCRIPyG,MTURNoH,MIbST^KE,NO&,McL I,VbST^KE,MJbC^SSED-&IL,M",
    "LbvT^FiX HOOK,TPeATe HOOK,McL L,MMbHOOK,MTURNoMbLlG iG,MNbiFyHOOK,TvT^FiX HOOK,McL N,MBdRoO,",
    "MP|,MSbHOOK,MESH,MTbPeATe HOOK,MU Bd,NP:Ll,McL U,MVbHOOK,MTURNoV,MZ,NbvT^FiX HOOK,TCURL,MEZH",
    ",MxE&,0COMBhhG DOTToGzVtACCqT,HACUTtACCqT,ASNAKtBELr,BUSPq:l MdK,A~CRl-ACUTE,AGzVE-~CRl,A~CR",
    "l-GzVE,AACUTE-~CRl,AGzVE-ACUTE-GzVE,AACUTE-GzVE-ACUTE,A$ThmMeaR BELr,ABvVE-~CRl,A~CRl-BvVE,A",
    "D%Bi ;UMFiXn,AOGlEKn,AZIGZAG BELr,AI!BELr,AURn,BSn,A$ThmMeaF$TTqoOPq An,TAE,UO,UV,TC CE<L$,T",
    "hSULd D,TEx,TG,GiTTjmMeL cL G,G?eaK,TL,GiTTjmMeL cL L,bM,G?eaN,GiTTjmMeL cL N,bR,G?eaR ^TUND",
    "A,TS,TLlGm,TZ,TePu,TB,UE&,TSCHWA,TF,TLbD%Bi MIDDi sLDE,TObLf CqTReIZAslmT^KE,TP,TESH,TUbLf C",
    "qTReIZAslmT^KE,TW,TAb<AjE:S,TOb<AjE:S,TUb<AjE:S,AUP &CKn,AKAVYKAn Rf,NiFT,ADOTn iFT,AWIDthVj",
    "ToBRIDGtBELr,ADOyBELr iFT,BEisl MdK,B%Bi hVjToBvVtBELr,AeMOSyEQUe TO BELr,AiFydRr*ADn,ARf dR",
    "r*A.k.DrN dRr*A.BELr,"]

end CharName

end Marginalia
