/-!
# Names of characters from 0x1e00 to 0x2bca

The names of Unicode 14 in the packed form that `CharName.seek` reads.
-/

namespace Marginalia

namespace CharName

/-- The packed names of these characters. -/
def part2 : List String :=
  ["=1E00,0$Th caAbRhG BELr,6?eaAbRhG BELr,6caBbDOTn,6?eaBbDOTn,6caBbDOyBELr,6?eaBbDOyBELr,6caBb",
    "LhtBELr,6?eaBbLhtBELr,6caCbCE<L$ k.ACUTE,6?eaCbCE<L$ k.ACUTE,6caDbDOTn,6?eaDbDOTn,6caDbDOyBE",
    "Lr,6?eaDbDOyBELr,6caDbLhtBELr,6?eaDbLhtBELr,6caDbCE<L$,6?eaDbCE<L$,6caDb;UMFiX BELr,6?eaDb;U",
    "MFiX BELr,6caEb~CRl k.GzVE,6?eaEb~CRl k.GzVE,6caEb~CRl k.ACUTE,6?eaEb~CRl k.ACUTE,6caEb;UMFi",
    "X BELr,6?eaEb;UMFiX BELr,6caEbsLDtBELr,6?eaEbsLDtBELr,6caEbCE<L$ k.BvVE,6?eaEbCE<L$ k.BvVE,6",
    "caFbDOTn,6?eaFbDOTn,6caGb~CRl,6?eaGb~CRl,6caHbDOTn,6?eaHbDOTn,6caHbDOyBELr,6?eaHbDOyBELr,6ca",
    "Hb<AjE:S,6?eaHb<AjE:S,6caHbCE<L$,6?eaHbCE<L$,6caHbBvVtBELr,6?eaHbBvVtBELr,6caIbsLDtBELr,6?ea",
    "IbsLDtBELr,6caIb<AjE:!k.ACUTE,6?eaIb<AjE:!k.ACUTE,6caKbACUTE,6?eaKbACUTE,6caKbDOyBELr,6?eaKb",
    "DOyBELr,6caKbLhtBELr,6?eaKbLhtBELr,6caLbDOyBELr,6?eaLbDOyBELr,6caLbDOyBELr k.~CRl,6?eaLbDOyB",
    "ELr k.~CRl,6caLbLhtBELr,6?eaLbLhtBELr,6caLb;UMFiX BELr,6?eaLb;UMFiX BELr,6caMbACUTE,6?eaMbAC",
    "UTE,6caMbDOTn,6?eaMbDOTn,6caMbDOyBELr,6?eaMbDOyBELr,6caNbDOTn,6?eaNbDOTn,6caNbDOyBELr,6?eaNb",
    "DOyBELr,6caNbLhtBELr,6?eaNbLhtBELr,6caNb;UMFiX BELr,6?eaNb;UMFiX BELr,6caObsLDtk.ACUTE,6?eaO",
    "bsLDtk.ACUTE,6caObsLDtk.<AjE:S,6?eaObsLDtk.<AjE:S,6caOb~CRl k.GzVE,6?eaOb~CRl k.GzVE,6caOb~C",
    "Rl k.ACUTE,6?eaOb~CRl k.ACUTE,6caPbACUTE,6?eaPbACUTE,6caPbDOTn,6?eaPbDOTn,6caRbDOTn,6?eaRbDO",
    "Tn,6caRbDOyBELr,6?eaRbDOyBELr,6caRbDOyBELr k.~CRl,6?eaRbDOyBELr k.~CRl,6caRbLhtBELr,6?eaRbLh",
    "tBELr,6caSbDOTn,6?eaSbDOTn,6caSbDOyBELr,6?eaSbDOyBELr,6caSbACUTtk.DOTn,6?eaSbACUTtk.DOTn,6ca",
    "SbCdl k.DOTn,6?eaSbCdl k.DOTn,6caSbDOyBELr k.DOTn,6?eaSbDOyBELr k.DOTn,6caTbDOTn,6?eaTbDOTn,",
    "6caTbDOyBELr,6?eaTbDOyBELr,6caTbLhtBELr,6?eaTbLhtBELr,6caTb;UMFiX BELr,6?eaTb;UMFiX BELr,6ca",
    "Ub<AjE:!BELr,6?eaUb<AjE:!BELr,6caUbsLDtBELr,6?eaUbsLDtBELr,6caUb;UMFiX BELr,6?eaUb;UMFiX BEL",
    "r,6caUbsLDtk.ACUTE,6?eaUbsLDtk.ACUTE,6caUb~CRl k.<AjE:S,6?eaUb~CRl k.<AjE:S,6caVbsLDE,6?eaVb",
    "sLDE,6caVbDOyBELr,6?eaVbDOyBELr,6caWbGzVE,6?eaWbGzVE,6caWbACUTE,6?eaWbACUTE,6caWb<AjE:S,6?ea",
    "Wb<AjE:S,6caWbDOTn,6?eaWbDOTn,6caWbDOyBELr,6?eaWbDOyBELr,6caXbDOTn,6?eaXbDOTn,6caXb<AjE:S,6?",
    "eaXb<AjE:S,6caYbDOTn,6?eaYbDOTn,6caZb;UMFiX,6?eaZb;UMFiX,6caZbDOyBELr,6?eaZbDOyBELr,6caZbLht",
    "BELr,6?eaZbLhtBELr,JHbLhtBELr,JTb<AjE:S,JWbRhGn,JYbRhGn,JAbRf HeF RhG,JLlGmbDOTn,WIAGlemT^KE",
    ",V|GHmT^KE,6caSHdPm,6?eaDEL&,6caAbDOyBELr,6?eaAbDOyBELr,6caAbHOOKn,6?eaAbHOOKn,6caAb;UMFiX k",
    ".ACUTE,6?eaAb;UMFiX k.ACUTE,6caAb;UMFiX k.GzVE,6?eaAb;UMFiX k.GzVE,6caAb;UMFiX k.HOOKn,6?eaA",
    "b;UMFiX k.HOOKn,6caAb;UMFiX k.sLDE,6?eaAb;UMFiX k.sLDE,6caAb;UMFiX k.DOyBELr,6?eaAb;UMFiX k.",
    "DOyBELr,6caAbBvVtk.ACUTE,6?eaAbBvVtk.ACUTE,6caAbBvVtk.GzVE,6?eaAbBvVtk.GzVE,6caAbBvVtk.HOOKn",
    ",6?eaAbBvVtk.HOOKn,6caAbBvVtk.sLDE,6?eaAbBvVtk.sLDE,6caAbBvVtk.DOyBELr,6?eaAbBvVtk.DOyBELr,6",
    "caEbDOyBELr,6?eaEbDOyBELr,6caEbHOOKn,6?eaEbHOOKn,6caEbsLDE,6?eaEbsLDE,6caEb;UMFiX k.ACUTE,6?",
    "eaEb;UMFiX k.ACUTE,6caEb;UMFiX k.GzVE,6?eaEb;UMFiX k.GzVE,6caEb;UMFiX k.HOOKn,6?eaEb;UMFiX k",
    ".HOOKn,6caEb;UMFiX k.sLDE,6?eaEb;UMFiX k.sLDE,6caEb;UMFiX k.DOyBELr,6?eaEb;UMFiX k.DOyBELr,6",
    "caIbHOOKn,6?eaIbHOOKn,6caIbDOyBELr,6?eaIbDOyBELr,6caObDOyBELr,6?eaObDOyBELr,6caObHOOKn,6?eaO",
    "bHOOKn,6caOb;UMFiX k.ACUTE,6?eaOb;UMFiX k.ACUTE,6caOb;UMFiX k.GzVE,6?eaOb;UMFiX k.GzVE,6caOb",
    ";UMFiX k.HOOKn,6?eaOb;UMFiX k.HOOKn,6caOb;UMFiX k.sLDE,6?eaOb;UMFiX k.sLDE,6caOb;UMFiX k.DOy",
    "BELr,6?eaOb;UMFiX k.DOyBELr,6caObH+N k.ACUTE,6?eaObH+N k.ACUTE,6caObH+N k.GzVE,6?eaObH+N k.G",
    "zVE,6caObH+N k.HOOKn,6?eaObH+N k.HOOKn,6caObH+N k.sLDE,6?eaObH+N k.sLDE,6caObH+N k.DOyBELr,6",
    "?eaObH+N k.DOyBELr,6caUbDOyBELr,6?eaUbDOyBELr,6caUbHOOKn,6?eaUbHOOKn,6caUbH+N k.ACUTE,6?eaUb",
    "H+N k.ACUTE,6caUbH+N k.GzVE,6?eaUbH+N k.GzVE,6caUbH+N k.HOOKn,6?eaUbH+N k.HOOKn,6caUbH+N k.s",
    "LDE,6?eaUbH+N k.sLDE,6caUbH+N k.DOyBELr,6?eaUbH+N k.DOyBELr,6caYbGzVE,6?eaYbGzVE,6caYbDOyBEL",
    "r,6?eaYbDOyBELr,6caYbHOOKn,6?eaYbHOOKn,6caYbsLDE,6?eaYbsLDE,6caMIDDi-WELSH LL,6?eaMIDDi-WELS",
    "H LL,6caMIDDi-WELSH V,6?eaMIDDi-WELSH V,6caYbLOOP,6?eaYbLOOP,0GvEKmMeaePubP:LI,UDA:A,UP:LI k",
    ".VdIA,UDA:A k.VdIA,UP:LI k.OXIA,UDA:A k.OXIA,UP:LI k.PjISPOMqI,UDA:A k.PjISPOMqI,6caePubP:LI",
    ",WDA:A,WP:LI k.VdIA,WDA:A k.VdIA,WP:LI k.OXIA,WDA:A k.OXIA,WP:LI k.PjISPOMqI,WDA:A k.PjISPOM",
    "qI,6?eaEP:LlbP:LI,WDA:A,WP:LI k.VdIA,WDA:A k.VdIA,WP:LI k.OXIA,WDA:A k.OXIA,=1F18,6caEP:LlbP",
    ":LI,YDA:A,YP:LI k.VdIA,YDA:A k.VdIA,YP:LI k.OXIA,YDA:A k.OXIA,=1F20,6?eaE&bP:LI,SDA:A,SP:LI ",
    "k.VdIA,SDA:A k.VdIA,SP:LI k.OXIA,SDA:A k.OXIA,SP:LI k.PjISPOMqI,SDA:A k.PjISPOMqI,6caE&bP:LI",
    ",UDA:A,UP:LI k.VdIA,UDA:A k.VdIA,UP:LI k.OXIA,UDA:A k.OXIA,UP:LI k.PjISPOMqI,UDA:A k.PjISPOM",
    "qI,6?eaIO&bP:LI,TDA:A,TP:LI k.VdIA,TDA:A k.VdIA,TP:LI k.OXIA,TDA:A k.OXIA,TP:LI k.PjISPOMqI,",
    "TDA:A k.PjISPOMqI,6caIO&bP:LI,VDA:A,VP:LI k.VdIA,VDA:A k.VdIA,VP:LI k.OXIA,VDA:A k.OXIA,VP:L",
    "I k.PjISPOMqI,VDA:A k.PjISPOMqI,6?eaOMICRlbP:LI,WDA:A,WP:LI k.VdIA,WDA:A k.VdIA,WP:LI k.OXIA",
    ",WDA:A k.OXIA,=1F48,6caOMICRlbP:LI,YDA:A,YP:LI k.VdIA,YDA:A k.VdIA,YP:LI k.OXIA,YDA:A k.OXIA",
    ",=1F50,6?eaUP:LlbP:LI,WDA:A,WP:LI k.VdIA,WDA:A k.VdIA,WP:LI k.OXIA,WDA:A k.OXIA,WP:LI k.PjIS",
    "POMqI,WDA:A k.PjISPOMqI,=1F59,6caUP:LlbDA:A,=1F5B,d k.VdIA,=1F5D,iOXIA,=1F5F,iPjISPOMqI,6?ea",
    "O_GAbP:LI,UDA:A,UP:LI k.VdIA,UDA:A k.VdIA,UP:LI k.OXIA,UDA:A k.OXIA,UP:LI k.PjISPOMqI,UDA:A ",
    "k.PjISPOMqI,6caO_GAbP:LI,WDA:A,WP:LI k.VdIA,WDA:A k.VdIA,WP:LI k.OXIA,WDA:A k.OXIA,WP:LI k.P",
    "jISPOMqI,WDA:A k.PjISPOMqI,6?eaePubVdIA,UOXIA,JEP:LlbVdIA,WOXIA,K&bVdIA,SOXIA,JIO&bVdIA,TOXI",
    "A,JOMICRlbVdIA,WOXIA,JUP:LlbVdIA,WOXIA,JO_GAbVdIA,UOXIA,=1F80,JePubP:LI k.YPOGEGzMMqI,UDA:A ",
    "k.YPOGEGzMMqI,UP:LI k.VdIA k.YPOGEGzMMqI,UDA:A k.VdIA k.YPOGEGzMMqI,UP:LI k.OXIA k.YPOGEGzMM",
    "qI,UDA:A k.OXIA k.YPOGEGzMMqI,UP:LI k.PjISPOMqI k.YPOGEGzMMqI,UDA:A k.PjISPOMqI k.YPOGEGzMMq",
    "I,6caePubP:LI k.P^SGEGzMMqI,WDA:A k.P^SGEGzMMqI,WP:LI k.VdIA k.P^SGEGzMMqI,WDA:A k.VdIA k.P^",
    "SGEGzMMqI,WP:LI k.OXIA k.P^SGEGzMMqI,WDA:A k.OXIA k.P^SGEGzMMqI,WP:LI k.PjISPOMqI k.P^SGEGzM",
    "MqI,WDA:A k.PjISPOMqI k.P^SGEGzMMqI,6?eaE&bP:LI k.YPOGEGzMMqI,SDA:A k.YPOGEGzMMqI,SP:LI k.Vd",
    "IA k.YPOGEGzMMqI,SDA:A k.VdIA k.YPOGEGzMMqI,SP:LI k.OXIA k.YPOGEGzMMqI,SDA:A k.OXIA k.YPOGEG",
    "zMMqI,SP:LI k.PjISPOMqI k.YPOGEGzMMqI,SDA:A k.PjISPOMqI k.YPOGEGzMMqI,6caE&bP:LI k.P^SGEGzMM",
    "qI,UDA:A k.P^SGEGzMMqI,UP:LI k.VdIA k.P^SGEGzMMqI,UDA:A k.VdIA k.P^SGEGzMMqI,UP:LI k.OXIA k.",
    "P^SGEGzMMqI,UDA:A k.OXIA k.P^SGEGzMMqI,UP:LI k.PjISPOMqI k.P^SGEGzMMqI,UDA:A k.PjISPOMqI k.P",
    "^SGEGzMMqI,6?eaO_GAbP:LI k.YPOGEGzMMqI,UDA:A k.YPOGEGzMMqI,UP:LI k.VdIA k.YPOGEGzMMqI,UDA:A ",
    "k.VdIA k.YPOGEGzMMqI,UP:LI k.OXIA k.YPOGEGzMMqI,UDA:A k.OXIA k.YPOGEGzMMqI,UP:LI k.PjISPOMqI",
    " k.YPOGEGzMMqI,UDA:A k.PjISPOMqI k.YPOGEGzMMqI,6caO_GAbP:LI k.P^SGEGzMMqI,WDA:A k.P^SGEGzMMq",
    "I,WP:LI k.VdIA k.P^SGEGzMMqI,WDA:A k.VdIA k.P^SGEGzMMqI,WP:LI k.OXIA k.P^SGEGzMMqI,WDA:A k.O",
    "XIA k.P^SGEGzMMqI,WP:LI k.PjISPOMqI k.P^SGEGzMMqI,WDA:A k.PjISPOMqI k.P^SGEGzMMqI,6?eaePubVz",
    "CHY,U~CRl,UVdIA k.YPOGEGzMMqI,UYPOGEGzMMqI,UOXIA k.YPOGEGzMMqI,=1FB6,UPjISPOMqI,f k.YPOGEGzM",
    "MqI,6caePubVzCHY,W~CRl,WVdIA,WOXIA,WP^SGEGzMMqI,6K+lIS,6P^SGEGzMMqI,7:LI,7jISPOMqI,6<eYsKA k",
    ".PjISPOMqI,6?eaE&bVdIA k.YPOGEGzMMqI,SYPOGEGzMMqI,SOXIA k.YPOGEGzMMqI,=1FC6,SPjISPOMqI,d k.Y",
    "POGEGzMMqI,6caEP:LlbVdIA,YOXIA,M&bVdIA,UOXIA,UP^SGEGzMMqI,6P:LI k.VdIA,GOXIA,GPjISPOMqI,6?ea",
    "IO&bVzCHY,T~CRl,T<eYsKA k.VdIA,hOXIA,=1FD6,TPjISPOMqI,T<eYsKA k.PjISPOMqI,6caIO&bVzCHY,V~CRl",
    ",VVdIA,VOXIA,=1FDD,6DA:A k.VdIA,GOXIA,GPjISPOMqI,6?eaUP:LlbVzCHY,W~CRl,W<eYsKA k.VdIA,kOXIA,",
    "JRHObP:LI,SDA:A,JUP:LlbPjISPOMqI,W<eYsKA k.PjISPOMqI,6caUP:LlbVzCHY,Y~CRl,YVdIA,YOXIA,LRHObD",
    "A:A,6<eYsKA k.VdIA,KOXIA,6VdIA,=1FF2,6?eaO_GAbVdIA k.YPOGEGzMMqI,UYPOGEGzMMqI,UOXIA k.YPOGEG",
    "zMMqI,=1FF6,UPjISPOMqI,f k.YPOGEGzMMqI,6caOMICRlbVdIA,YOXIA,NEGAbVdIA,WOXIA,WP^SGEGzMMqI,6OX",
    "IA,6DA:A,=2000,0q QUAD,1M QUAD,1NmPACE,1MmPACE,0xvE-Pj-EMmPACE,0F%R-Pj-EMmPACE,0:X-Pj-EMmPAC",
    "E,0FIGUvmPACE,0PUNCTUAslmPACE,0xhmPACE,0uIRmPACE,0ZjO WIDxmPACE,BNl-JOhj,BJOhj,0iFT-TO-Rf Md",
    "K,0Rf-TO-iFyMdK,0HYPHq,0Nl-BvAKhG HYPHq,0FIGURtDASH,0q DASH,1M DASH,0H+IZlTe Bd,0D%Bi VjsCe ",
    "LhE,7Lr LhE,0iFTmhGi QUO&sl MdK,0RfmhGi QUO&sl MdK,0ShGi Lr-9 QUO&sl MdK,7|GH-vVjSED-9 QUO&s",
    "l MdK,0iFyD%Bi QUO&sl MdK,0Rf D%Bi QUO&sl MdK,0D%Bi Lr-9 QUO&sl MdK,7|GH-vVjSED-9 QUO&sl MdK",
    ",1AGGj,1%Bi DAGGj,0BULiT,0TRIkGULd BULiT,0ltDOyiADj,0TWO DOyiADj,0H+IZlTe ELLIP:S,1YPHqAsl P",
    "OhT,0LhEmEPdAT+,0PdAGzPHmEPdAT+,0iFT-TO-Rf EMBEDDhG,0Rf-TO-iFyEMBEDDhG,0POP <vCslegATThG,0iF",
    "T-TO-Rf OVjRIDE,0Rf-TO-iFyOVjRIDE,0NdRr NO-BvAKmPACE,0Pj MILimw,4Tq x%SkDmw,1RI_,0D%Bi PRI_,",
    "0TRIPi PRI_,0vVjSoPRI_,9D%Bi PRI_,9TRIPi PRI_,0CdET,0ShGi iFT-POhThG kGi QUO&sl MdK,7Rf-POhT",
    "hG kGi QUO&sl MdK,0vFjqCtMdK,0D%Bi EXC$~sl MdK,0hTj^BkG,0OVjLhE,0UNDjsE,0CHdACTj sE,1dEyhSjs",
    "l POhT,0ASTjI?,0HYPHq BULiT,0FzCslm$SH,0iFTmQUdtBzCKETbQUILL,0RfmQUdtBzCKETbQUILL,0D%Bi QUES",
    "sl MdK,0QUESsl EXC$~sl MdK,0EXC$~sl QUESsl MdK,0sRlIkmw ET,0vVjSoPILCRrmw,0B$CK iFTWdD!BULiT",
    ",6RfWdD!BULiT,0Lr ASTjISK,0vVjSEDmEMICOLl,0CLOStUP,0TWO ASTjISK!ewoVjsCeLY,0COMMjCIe MhUSmw,",
    "0SWUNG DASH,0hVjToUNDjsE,0FLrj PUNCTUAsl MdK,0xvtDOyPUNCTUAsl,0QUADRUPi PRI_,0F%R DOyPUNCTUA",
    "sl,1IVtDOyPUNCTUAsl,0TWO DOyPUNCTUAsl,0F%R DOyMdK,0DOTToC^SS,0TRICOLl,0VjsCe F%R DOTS,0_<UM ",
    "~xE~sCemPACE,0W+.JOhj,0FUNCsl APPLICAsl,0hVI:Bi s_S,ASEPdAT+,APLUS,=2066,0iFT-TO-Rf ISO$TE,0",
    "Rf-TO-iFyISO$TE,0FIRSTmTRlG ISO$TE,0POP <vCsle ISO$TE,0h|BITmYM_TRICmWAPPhG,0ACsVATEmYM_TRIC",
    "mWAPPhG,0h|BIydABICgmuPhG,0ACsVATtdABICgmuPhG,0NAsle <GITmuPES,1OMhe <GITmuPES,0SUPjSCRIPyZj",
    "O,C$ThmMeaI,=2074,CF%R,DIVE,C:X,DEVq,CEf,CNhE,CPLUSmw,CMhUS,CEQUeSmw,CiFyPdqxE:S,CRf PdqxE:S",
    ",C$ThmMeaN,2BSCRIPyZjO,AlE,ATWO,BHvE,AF%R,BIVE,A:X,BEVq,AEf,ANhE,APLUSmw,AMhUS,AEQUeSmw,AiFy",
    "PdqxE:S,ARf PdqxE:S,=2090,0$ThmUBSCRIPTmMeaA,TE,TO,TX,TSCHWA,TH,TK,TL,TM,TN,TP,TS,TT,=20A0,0",
    "EU^-CURRqCYmw,0COLlmw,1RUZEI^mw,0FRqCH FRkCmw,0LIzmw,0MILLmw,0NAIzmw,0PESE&mw,0RUPEEmw,0Wlmw",
    ",0NEWm*QELmw,0DlGmw,0EU^mw,0KIPmw,0TUGRIKmw,0DzCH~mw,0GjMk PqNYmw,0PESOmw,0GUdkImw,0AUSTRemw",
    ",0HRYVNIAmw,0CE<mw,0LIVRtT%RNOISmw,0SPE?ILOmw,0TqGEmw,0h<k RUPEEmw,0TURKISH LIzmw,0N+<C MdKm",
    "w,0MkATmw,0RUBimw,0LdImw,0BITCOhmw,0SOMmw,=20D0,0COMBhhG iFyHdPOln,ARf HdPOln,ALlG VjsCe Lht",
    "OVj$Y,ASH+yVjsCe LhtOVj$Y,AksCLOCKWIStdRrn,ACLOCKWIStdRrn,AiFydRrn,ARf dRrn,CNG OVj$Y,ACLOCK",
    "WIStRhG OVj$Y,AksCLOCKWIStRhG OVj$Y,AxvtDOTSn,AF%R DOTSn,AqCLOShG ;i,KSQUdE,K<AMlD,K;i BACKS",
    "$SH,AiFyRf dRrn,AqCLOShGmCvq,KKEYCAP,KUPWd.POhThG TRIkGi,AvVjSEmOLIDU!OVj$Y,AD%Bi VjsCemT^Kt",
    "OVj$Y,AkNUITYm>,ATRIPi UNDjDOT,AWIDtBRIDGEn,AiFTWdD!dRr OVj$Y,BlG D%BimOLIDU!OVj$Y,ARfWdD!Hd",
    "POlbBdB DrNWdDS,AiFTWdD!HdPOlbBdB DrNWdDS,E dRr BELr,ARf dRr BELr,AASTjISKn,=2100,0ACC%NyOF,",
    "1DDvSSoTO xEmUBJECT,0D%Bi-STRUCK cL C,1EGvtCEL:US,0CqTRtLhEm>,1dtOF,2DA UNA,0EUiR ClSTkT,0SC",
    "RUPi,0DEGvtFAHRq*IT,0SCRIPTmMeL G,7cL H,0B$CK-iTTj cL H,0D%Bi-STRUCK cL H,0PLkCK ClSTkT,F OV",
    "j TWO PI,0SCRIPycL I,0B$CK-iTTj cL I,0SCRIPycL L,7?eL L,0L B Bdm>,0D%Bi-STRUCK cL N,0NUMjOmw",
    ",0S%N.vC+DhG COPYRf,1CRIPycL P,0D%Bi-STRUCK cL P,MQ,0SCRIPycL R,0B$CK-iTTj cL R,0D%Bi-STRUCK",
    " cL R,0PvSCRIPsl &KE,0vSPlSE,0SjVICtMdK,0TEiPHlEmw,1zDtMdKmw,0Vj:Ci,0D%Bi-STRUCK cL Z,0%NCEm",
    "w,1HMmw,0hVjToOHMmw,0B$CK-iTTj cL Z,0TURNoGvEKmMeaIO&,0KELVhmw,0kGST^Mmw,0SCRIPycL B,0B$CK-i",
    "TTj cL C,0ESs~TEDm>,0SCRIPTmMeL E,7cL E,FF,0TURNocL F,0SCRIPycL M,7?eL O,0eEFm>,0BETm>,0GI_L",
    "m>,0DeETm>,0hF+~slm%RCE,0^&TocL Q,0FAC:MIimw,0D%Bi-STRUCKmMeL PI,KGAM~,EcL GAM~,MPI,EN-dYmUM",
    "~sl,0TURNEDmkS-SjIF cL G,QL,0vVjSEDmkS-SjIF cL L,0TURNEDmkS-SjIF cL Y,0D%Bi-STRUCK ITeIC cL ",
    "D,L?eL D,RE,RI,RJ,0P^PjTY LhE,0TURNoAMPjSkD,0Pjmw,0AKsESELSKAB,0TURNEDmMeL F,0S> F+mAMdITkm%",
    "RCE,0VULGd FzCsl lEmEVqx,KNhx,KTqx,L|RD,GTWO xIRDS,GltFIFx,GTWO FIFxS,HHvtFIFxS,GF%R FIFxS,G",
    "lEmIXx,GFIVEmIXxS,GltEfH,GxvtEfHS,GFIVtEfHS,GSEVq EfHS,0FzCsl NUMjAT+ lE,0^Mk NUMje lE,ETWO,",
    "FHvE,EF%R,FIVE,E:X,FEVq,EEf,ENhE,ETq,EEiVq,ETWELVE,EFIFTY,EltHUNDvD,EFIVtHUNDvD,Eltx%SkD,0?e",
    "L ^Mk NUMje lE,KTWO,LHvE,KF%R,LIVE,K:X,LEVq,KEf,KNhE,KTq,KEiVq,KTWELVE,KFIFTY,KltHUNDvD,KFIV",
    "tHUNDvD,Kltx%SkD,0^Mk NUMje ltx%Sk.C D,EFIVtx%SkD,ETq x%SkD,EvVjSoltHUNDvD,0$ThmMeavVjSoC,0^",
    "Mk NUMjemIX $TEg,EFIFTY EdLYg,Kx%SkD,EltHUNDRox%SkD,0VULGd FzCsl ZjO xIRDS,0TURNo<GIyTWO,EHv",
    "E,=2190,0iFTWdD!dRr,0UPWdD!dRr,0RfWdD!dRr,0DrNWdD!dRr,0iFyRf dRr,0UP DrN dRr,0N+x WESydRr,6E",
    "ASydRr,0S%x EASydRr,6WESydRr,0iFTWdD!dRrbST^KE,0RfWdD!dRrbST^KE,0iFTWdD!WAVtdRr,0RfWdD!WAVtd",
    "Rr,0iFTWdD!TWO *ADodRr,0UPWdD!TWO *ADodRr,0RfWdD!TWO *ADodRr,0DrNWdD!TWO *ADodRr,0iFTWdD!dRr",
    "b&IL,0RfWdD!dRrb&IL,0iFTWdD!dRr F^M Bd,0UPWdD!dRr F^M Bd,0RfWdD!dRr F^M Bd,0DrNWdD!dRr F^M B",
    "d,0UP DrN dRrbBASE,0iFTWdD!dRrbHOOK,0RfWdD!dRrbHOOK,0iFTWdD!dRrbLOOP,0RfWdD!dRrbLOOP,0iFyRf ",
    "WAVtdRr,BdRrbST^KE,0DrNWdD!ZIGZAG dRr,0UPWdD!dRrbsP iFTWdDS,NRfWdDS,0DrNWdD!dRrbsP iFTWdDS,P",
    "RfWdDS,0RfWdD!dRrbC+Nj DrNWdDS,0DrNWdD!dRrbC+Nj iFTWdDS,0ksCLOCKWIStTOPmEMI;i dRr,0CLOCKWISt",
    "TOPmEMI;i dRr,0N+x WESydRr TO LlG Bd,0iFTWdD!dRr TO Bd OVj RfWdD!dRr TO Bd,0ksCLOCKWIStOPq ;",
    "i dRr,0CLOCKWIStOPq ;i dRr,0iFTWdD!HdPOlbBdB UPWdDS,SDrNWdDS,0UPWdD!HdPOlbBdB RfWdDS,QiFTWdD",
    "S,0RfWdD!HdPOlbBdB UPWdDS,TDrNWdDS,0DrNWdD!HdPOlbBdB RfWdDS,SiFTWdDS,0RfWdD!dRr OVj iFTWdD!d",
    "Rr,0UPWdD!dRr iFTWdD!OF DrNWdD!dRr,0iFTWdD!dRr OVj RfWdD!dRr,APAIRodRrS,0UPWdD!PAIRodRrS,0Rf",
    "WdD!PAIRodRrS,0DrNWdD!PAIRodRrS,0iFTWdD!HdPOl OVj RfWdD!HdPOl,0RfWdD!HdPOl OVj iFTWdD!HdPOl,",
    "0iFTWdD!D%Bi dRrbST^KE,4 Rf D%Bi dRrbST^KE,0RfWdD!D%Bi dRrbST^KE,0iFTWdD!D%Bi dRr,0UPWdD!D%B",
    "i dRr,0RfWdD!D%Bi dRr,0DrNWdD!D%Bi dRr,0iFyRf D%Bi dRr,0UP DrN D%Bi dRr,0N+x WESyD%Bi dRr,6E",
    "ASyD%Bi dRr,0S%x EASyD%Bi dRr,6WESyD%Bi dRr,0iFTWdD!TRIPi dRr,0RfWdD!TRIPi dRr,0iFTWdDSmQUIG",
    "Gi dRr,0RfWdDSmQUIGGi dRr,0UPWdD!dRrbD%BimT^KE,0DrNWdD!dRrbD%BimT^KE,0iFTWdD!DASHodRr,0UPWdD",
    "!DASHodRr,0RfWdD!DASHodRr,0DrNWdD!DASHodRr,0iFTWdD!dRr TO Bd,0RfWdD!dRr TO Bd,0iFTWdD!W|TtdR",
    "r,0UPWdD!W|TtdRr,0RfWdD!W|TtdRr,0DrNWdD!W|TtdRr,0UPWdD!W|TtdRr F^M Bd,Kl PEDESTe,VbH+IZlTe B",
    "d,bVjsCe Bd,ED%Bi dRr,Q l PEDESTe,0RfWdD!W|TtdRr F^M WeL,0N+x WESydRr TO C+Nj,0S%x EASydRr T",
    "O C+Nj,0UP DrN W|TtdRr,0Rf dRrb?eL ;i,0DrNWdD!dRr iFTWdD!OF UPWdD!dRr,0xvtRfWdD!dRrS,0iFTWdD",
    "!dRrbVjsCemT^KE,0RfWdD!dRrbVjsCemT^KE,0iFyRf dRrbVjsCemT^KE,4WdD!dRrbD%Bi VjsCemT^KE,0RfWdD!",
    "dRrbD%Bi VjsCemT^KE,0iFyRf dRrbD%Bi VjsCemT^KE,4WdD!OPq-*ADodRr,0RfWdD!OPq-*ADodRr,0iFyRf OP",
    "q-*ADodRr,0F+ eL,0COMPiMqT,0Pdse <FFjqse,0xjtEXISTS,6DOE!NOyEXIST,0EMPTYmET,0hCvMqT,0NAB$,0E",
    "iMqyOF,0NOyk EiMqyOF,0?eL EiMqyOF,0Cl&h!A!_MBj,0DOE!NOyCl&h A!_MBj,0?eL Cl&h!A!_MBj,0q.OF P^",
    "OF,0N-dY P^DUCT,6COP^DUCT,6SUM~sl,0MhUSmw,5-+-PLUSmw,0DOyPLUS,1IVI:lm$SH,0SEyMhUS,0ASTjISK O",
    "PjAT+,0RhG OPjAT+,0BULiyOPjAT+,0SQUdt^OT,0CUBt^OT,0F%Rx ^OT,0P^P+sle TO,0hFhITY,0Rf kGi,0kGi",
    ",0_ASURokGi,0SPHjICe kGi,0<VIDES,1OE!NOy<VIDE,0PdeiL TO,0NOyPdeiL TO,0LOGICe kD,8+,0hTjSECsl",
    ",0UNIl,0hTEGRe,0D%Bi hTEGRe,0TRIPi hTEGRe,0ClT%R hTEGRe,0SURFACthTEGRe,0VOLUMthTEGRe,0CLOCKW",
    "ISthTEGRe,AClT%R hTEGRe,0ksCLOCKWIStClT%R hTEGRe,0xjEFOv,0BECAUSE,0zsO,0P^P+sl,0DOyMhUS,0EXC",
    "ESS,0GEO_TRIC P^P+sl,0HOMOxEsC,0sLDtOPjAT+,0vVjSosLDE,0hVjTo$ZYm,0ShtWAVE,0WvAx P^DUCT,0NOys",
    "LDE,0MhU!sLDE,0ASYMPTOsCeLY EQUe TO,0NOyASYMPTOsCeLY EQUe TO,0APP^XI~TELY EQUe TO,EBUyNOyACT",
    "UeLY EQUe TO,0NEIxj APP^XI~TELY N+ ACTUeLY EQUe TO,0eMOSyEQUe TO,0NOyeMOSyEQUe TO,0eMOSyEQUe",
    " + EQUe TO,0TRIPi sLDE,0eL EQUe TO,0EQUIVeqyTO,0GEO_TRICeLY EQUIVeqyTO,0<FFjqCtBETWEq,0APP^A",
    "C*!xtLIMIT,0GEO_TRICeLY EQUe TO,0APP^XI~TELY EQUe TO + xtI~GtOF,0I~GtOF + APP^XI~TELY EQUe T",
    "O,0COLl EQUeS,0EQUe!COLl,0RhG h EQUe TO,5EQUe TO,0C+vSPlD!TO,0ESs~TES,1QUIkGULd TO,0STd EQUe",
    "S,0DEL& EQUe TO,0EQUe TO BY DEFhIsl,0_ASURoBY,0QUESsloEQUe TO,0NOyEQUe TO,0IDqsCe TO,0NOyIDq",
    "sCe TO,0STRICTLY EQUIVeqyTO,0iSS-xk + EQUe TO,0GvATj-xk + EQUe TO,0iSS-xk OVj EQUe TO,0GvATj",
    "-xk OVj EQUe TO,0iSS-xk BUyNOyEQUe TO,0GvATj-xk BUyNOyEQUe TO,0MUCH iSS-xk,5GvATj-xk,0BETWEq",
    ",0NOyEQUIVeqyTO,4iSS-xk,4GvATj-xk,1EIxj iSS-xk N+ EQUe TO,8GvATj-xk N+ EQUe TO,0iSS-xk + EQU",
    "IVeqyTO,0GvATj-xk + EQUIVeqyTO,0NEIxj iSS-xk N+ EQUIVeqyTO,8GvATj-xk N+ EQUIVeqyTO,0iSS-xk +",
    " GvATj-xk,0GvATj-xk + iSS-xk,0NEIxj iSS-xk N+ GvATj-xk,8GvATj-xk N+ iSS-xk,0PvCEDES,0SUCCEED",
    "S,0PvCEDE!+ EQUe TO,0SUCCEED!+ EQUe TO,0PvCEDE!+ EQUIVeqyTO,0SUCCEED!+ EQUIVeqyTO,0DOE!NOyPv",
    "CEDE,9SUCCEED,0SUBSEyOF,2PjSEyOF,0NOyAmUBSEyOF,8PjSEyOF,0SUBSEyOF + EQUe TO,2PjSEyOF + EQUe ",
    "TO,0NEIxj AmUBSEyOF N+ EQUe TO,CPjSEyOF N+ EQUe TO,0SUBSEyOFbNOyEQUe TO,2PjSEyOFbNOyEQUe TO,",
    "0MULsSET,8 MULsPLICAsl,9UNIl,0SQUdtI~GtOF,7+IGhe OF,7I~GtOF + EQUe TO,7+IGhe OF + EQUe TO,7C",
    "AP,8UP,0;i.PLUS,8MhUS,8s_S,8<VI:lm$SH,9OyOPjAT+,8RhG OPjAT+,8ASTjISK OPjAT+,8EQUeS,8DASH,0SQ",
    "UdoPLUS,8MhUS,8s_S,8DOyOPjAT+,0Rf &CK,0iFy&CK,0DrN &CK,0UP &CK,0ASSjsl,0MODELS,0TRUE,0F+CES,",
    "0TRIPi VjsCe Bd Rf TURNSsi,0D%Bi VjsCe Bd D%Bi Rf TURNSsi,2E!NOyP^VE,0NOyTRUE,0DOE!NOyF+CE,0",
    "NEGAToD%Bi VjsCe Bd D%Bi Rf TURNSsi,0PvCEDE!UNDj v$sl,0SUCCEED!UNDj v$sl,0N+MemUBGR%P OF,0Cl",
    "&h!A!N+MemUBGR%P,0N+MemUBGR%P OF + EQUe TO,0Cl&h!A!N+MemUBGR%P + EQUe TO,0+IGhe OF,0I~GtOF,0",
    "MULs~P,0HjMIsk ClJUGATt~TRIX,0hTjCeATE,0X+,0NkD,1+,0Rf kGibdC,6TRIkGi,0N-dY LOGICe kD,E+,6hT",
    "jSECsl,6UNIl,0<AMl.OPjAT+,1OyOPjAT+,0STd OPjAT+,0<VI:l s_S,0BrsE,0iFyN+Me FACT+mEMI<vCyP^DUC",
    "T,0Rf N+Me FACT+mEMI<vCyP^DUCT,0iFTmEMI<vCyP^DUCT,0RfmEMI<vCyP^DUCT,1EVjSosLDtEQUeS,0CURLY L",
    "OGICe +,EkD,0D%BimUBSET,9PjSET,7hTjSECsl,7UNIl,0PITCHF+K,0EQUe k.PdeiL TO,0iSS-xkbDOT,0GvATj",
    "-xkbDOT,0VjY MUCH iSS-xk,AGvATj-xk,0iSS-xk EQUe TO + GvATj-xk,0GvATj-xk EQUe TO + iSS-xk,0EQ",
    "Ue TO + iSS-xk,CGvATj-xk,CPvCEDES,CSUCCEEDS,0DOE!NOyPvCEDt+ EQUe,9SUCCEo+ EQUe,0NOTmQUdtI~Gt",
    "OF + EQUe TO,B+IGhe OF + EQUe TO,0SQUdtI~GtOF + NOyEQUe TO,7+IGhe OF + NOyEQUe TO,0iSS-xk BU",
    "yNOyEQUIVeqyTO,0GvATj-xk BUyNOyEQUIVeqyTO,0PvCEDE!BUyNOyEQUIVeqyTO,0SUCCEED!BUyNOyEQUIVeqyTO",
    ",0NOyN+MemUBGR%P OF,0DOE!NOyCl&h A!N+MemUBGR%P,0NOyN+MemUBGR%P OF + EQUe TO,0DOE!NOyCl&h A!N",
    "+MemUBGR%P + EQUe,0VjsCe ELLIP:S,0MIDLhtH+IZlTe ELLIP:S,0UP Rf <AGle ELLIP:S,0DrN Rf <AGle E",
    "LLIP:S,0EiMqyOFbLlG H+IZlTemT^KE,GVjsCe Bd Ayq.OF H+IZlTemT^KE,0?eL EiMqyOFbVjsCe Bd Ayq.OF ",
    "H+IZlTemT^KE,0EiMqyOFbDOTn,GOVjBd,0?eL EiMqyOFbOVjBd,0EiMqyOFbUNDjBd,GTWO H+IZlTemT^KES,0Cl&",
    "hSbLlG H+IZlTemT^KE,EVjsCe Bd Ayq.OF H+IZlTemT^KE,0?eL Cl&hSbVjsCe Bd Ayq.OF H+IZlTemT^KE,0C",
    "l&hSbOVjBd,0?eL Cl&hSbOVjBd,0Z NO&sl BAG _MBjS|P,0<A_Tjmw,0EiCTRIC dRr,0H%SE,0UP dRr*AD,0DrN",
    " dRr*AD,0P^JECsVE,1jSPECsVE,0WAVY LhE,0iFyCEILhG,0Rf CEILhG,0iFyFLO+,0Rf FLO+,0BOTTOM Rf C^P",
    ",7iFyC^P,0TOP Rf C^P,4iFyC^P,0vVjSoNOTmw,0SQUdtLOZqGE,0dC,0SEGMqT,2CT+,0TEiPHltvC+Dj,0PO:sl ",
    "h<CAT+,0VIEWDA&mQUdE,0P$CtOF hTjESTmw,0TURNoNOTmw,0WATCH,0H%RG$SS,0TOP iFyC+Nj,4Rf C+Nj,0BOT",
    "TOM iFyC+Nj,7Rf C+Nj,0TOP HeF hTEGRe,0BOTTOM HeF hTEGRe,0FRrN,0?Ii,0UP dRr*A.BETWEq TWO H+IZ",
    "lTe BdS,0OPsl KEY,0jAStTO xtRf,0X h A vCTkGi BOX,0KEYBOdD,0iFT-POhThG kGi BzCKET,0Rf-POhThG ",
    "kGi BzCKET,0jAStTO xtiFT,0BqZqtRhG,0CYLhDRICITY,0eL d%ND-P^FIi,0SYM_TRY,0TOTe RUN%T,0<Mq:l +",
    "IGh,0ClICe &Pj,0SLOPE,0C%NTjBOv,7ShK,0APL FUNCslem> I-BEAM,MSQUISH QUAD,MQUA.EQUe,R<VIDE,TAM",
    "lD,RJOT,R;i,M;imsi,TJOT,MS$SH Bd,MBACKS$SH Bd,MQUADm$SH,RBACKS$SH,RiSS-xk,RGvATj-xk,MiFTWdD!",
    "VkE,MRfWdD!VkE,MQUA.iFTWdD!dRr,RRfWdD!dRr,M;i BACKS$SH,MDrN &CK UNDjBd,NEL&msi,MQUA.DrN CdET",
    ",SEL&,MDrN &CK JOT,MUPWdD!VkE,MQUA.UPWdD!dRr,MUP &CK OVjBd,MDELmsi,MQUA.UP CdET,RDEL,MUP &CK",
    " JOT,MDrNWdD!VkE,MQUA.DrNWdD!dRr,OOTtUNDjBd,MDEL& UNDjBd,NIAMl.UNDjBd,MJOyUNDjBd,M;i UNDjBd,",
    "MUPmHOtJOT,MQUOTtQUAD,M;imTd,MQUA.COLl,MUP &CK <AjE:S,MDEL <AjE:S,MSTd <AjE:S,MJOy<AjE:S,M;i",
    " <AjE:S,MDrNmHOEmsi,MiFTmHOEmsi,MsLDt<AjE:S,MGvATj-xk <AjE:S,MCOM~ Bd,MDEL sLDE,MZILDE,MSsi ",
    "sLDE,NEMICOLl UNDjBd,MQUA.NOyEQUe,RQUESsl,MDrN CdEysLDE,MUP CdEysLDE,MIO&,MRHO,MO_GA,MePu UN",
    "DjBd,MEP:Ll UNDjBd,MIO& UNDjBd,MO_GA UNDjBd,MePu,0NOyC*CK MdK,0Rf kGibDrNWdD!ZIGZAG dRr,0SH%",
    "LDjoOPq BOX,0BELLm>,0VjsCe LhEbMIDDi DOT,0hSjslm>,0ClThU%!UNDjLhEm>,0<SClThU%!UNDjLhEm>,0EMP",
    "u:Sm>,0COMPO:slm>,0W|TEmQUdEbCqTRtVjsCe LhE,0qTjm>,0eTjNAsVtKEYm>,0*LMm>,0;i.H+IZlTe BdbNOTC",
    "H,8TRIkGi DrN,0B^Kq ;ibN+xWESydRr,0UNDOm>,0MlOS&Bim>,0HYSTjE:Sm>,0OPq-;UIT-%TPUyH-TYPEm>,KL-",
    "TYPEm>,0PAS:VE-PULL-DrN-%TPUTm>,DUP-%TPUTm>,0<vCyCURRqTm>g TWO,0SOFTWdE-FUNCslm>,0APL FUNCsl",
    "em> QUAD,0DECIMemEPdAT+ KEYm>,0PvVI%!PAGE,0NEXyPAGE,0PRhTmCvqm>,0CidmCvqm>,0iFyPdqxE:!UPPj H",
    "OOK,HEXTq:l,HLrj HOOK,0Rf PdqxE:!UPPj HOOK,IEXTq:l,ILrj HOOK,0iFTmQUdtBzCKEyUPPj C+Nj,KEXTq:",
    "l,KLrj C+Nj,0RfmQUdtBzCKEyUPPj C+Nj,LEXTq:l,LLrj C+Nj,0iFyCURLY BzCKEyUPPj HOOK,JMIDDi PIECE",
    ",JLrj HOOK,0CURLY BzCKEyEXTq:l,0Rf CURLY BzCKEyUPPj HOOK,KMIDDi PIECE,KLrj HOOK,0hTEGRe EXTq",
    ":l,0H+IZlTe LhtEXTq:l,0UPPj iFy+ Lrj Rf CURLY BzCKETmECsl,6Rf + Lrj iFyCURLY BzCKETmECsl,0SU",
    "M~sl TOP,ABOTTOM,0TOPmQUdtBzCKET,0BOTTOMmQUdtBzCKET,L OVj TOPmQUdtBzCKET,0z<Cem> BOTTOM,0iFy",
    "VjsCe BOX LhE,0Rf VjsCe BOX LhE,0H+IZlTemCk LhE-1,L3,L7,L9,0DqsSTRYm> Lf VjsCe k.TOP Rf,aBOT",
    "TOM Rf,WWIx ;i,NDrN k.H+IZlTeb;i,NUP k.H+IZlTeb;i,NVjsCebTRIkGi,NDrN k.H+IZlTebTRIkGi,NUP k.",
    "H+IZlTebTRIkGi,NVjsCe k.WAVE,NDrN k.H+IZlTebWAVE,NUP k.H+IZlTebWAVE,NDrN k.H+IZlTe,NUP k.H+I",
    "ZlTe,NVjsCe k.TOP iFT,aBOTTOM iFT,0SQUdtFOOT,0vTURNm>,0EJECTm>,0VjsCe LhtEXTq:l,0_TRICe BvVE",
    ",9LlG OVjmH+T,9SH+yOVj LlG,9LlG OVj TWOmH+TS,9TWOmH+T!OVj LlG,KJOhED,ARISE_,AETzSE_,9Pq&SE_,",
    "0Edx GR%ND,0FUSE,0TOP PdqxE:S,0BOTTOM PdqxE:S,0TOP CURLY BzCKET,0BOTTOM CURLY BzCKET,0TOP T+",
    "TOISEm*LL BzCKET,0BOTTOM T+TOISEm*LL BzCKET,0W|TtTzPEZIUM,0BqZqtRhGb;i,0STzfNESS,0F$TNESS,0A",
    "C CURRqT,0EiCTRICe hTjSECsl,0DECIMe EXPlqTm>,0B$CK Rf-POhThG D%Bi TRIkGi,6iFT-POhThG D%Bi TR",
    "IkGi,6UP-POhThG D%Bi TRIkGi,6DrN-POhThG D%Bi TRIkGi,6Rf-POhThG D%Bi TRIkGibVjsCe Bd,6iFT-POh",
    "ThG D%Bi TRIkGibVjsCe Bd,6Rf-POhThG TRIkGibD%Bi VjsCe Bd,0edM CLOCK,0STOPWATCH,0sMj CLOCK,0H",
    "%RG$SSbFLrhGmkD,0B$CK _<UM iFT-POhThG TRIkGi,DRf-POhThG TRIkGi,DUP-POhThG TRIkGi,DDrN-POhThG",
    " TRIkGi,0D%Bi VjsCe Bd,0B$CKmQUdtF+mTOP,6;i F+ vC+D,0Prjm>,6l-OFFm>,8m>,6SiEPm>,0OBSjVj EYEm",
    ">,0S> F+ NULL,BSTdyOF *ADhG,KTEXT,Bq.OF TEXT,JRk?IS:l,DQUIRY,BACKNriDGE,BBELL,CACKSPACE,BH+I",
    "ZlTe &BU$sl,BLhtFEED,BVjsCe &BU$sl,BF+M FEED,BCdRIAGtvTURN,BS|Fy%T,Hh,BDA& LhK ESCAPE,CEVICt",
    "ClT^L lE,QTWO,RHvE,QF%R,BNEGAsVtACKNriDGE,BSYNCHRl%!IDi,Bq.OF TRk?IS:l BLOCK,BCkCEL,Bq.OF _<",
    "UM,BSUBSsTUTE,BESCAPE,BFIimEPdAT+,BGR%PmEPdAT+,BvC+DmEPdAT+,BUNITmEPdAT+,BSPACE,BDEiTE,0BLkK",
    "m>,0OPq BOX,0S> F+ NEWLhE,BDEiTEg TWO,BSUBSsTUTEg TWO,=2440,0OCR HOOK,4CuIR,4F+K,4hVjToF+K,4",
    "BELyBUCKi,5r sE,5RkCH BkK IDqsFICAsl,4AM%NyOF C*CK,4DASH,4CUSTOMj ACC%NyNUMBj,4D%Bi BACKS$SH",
    ",=2460,0;i.<GIylE,ETWO,FHvE,EF%R,FIVE,E:X,FEVq,EEf,ENhE,8NUMBj Tq,FEiVq,FTWELVE,G|RTEq,FF%RT",
    "Eq,GIFTEq,F:XTEq,GEVqTEq,FEfEq,FNhETEq,FTWqTY,0PdqxE:Zo<GIylE,KTWO,LHvE,KF%R,LIVE,K:X,LEVq,K",
    "Ef,KNhE,ENUMBj Tq,LEiVq,LTWELVE,M|RTEq,LF%RTEq,MIFTEq,L:XTEq,MEVqTEq,LEfEq,LNhETEq,LTWqTY,0<",
    "GIyltFULLmTOP,6TWO FULLmTOP,7HvtFULLmTOP,6F%R FULLmTOP,7IVtFULLmTOP,6:X FULLmTOP,7EVq FULLmT",
    "OP,6Ef FULLmTOP,6NhtFULLmTOP,0NUMBj Tq FULLmTOP,7EiVq FULLmTOP,7TWELVtFULLmTOP,8|RTEq FULLmT",
    "OP,7F%RTEq FULLmTOP,8IFTEq FULLmTOP,7:XTEq FULLmTOP,8EVqTEq FULLmTOP,7EfEq FULLmTOP,7NhETEq ",
    "FULLmTOP,7TWqTY FULLmTOP,0PdqxE:Zo$ThmMeaA,XB,XC,XD,XE,XF,XG,XH,XI,XJ,XK,XL,XM,XN,XO,XP,XQ,X",
    "R,XS,XT,XU,XV,XW,XX,XY,XZ,0;i.$Th caA,TB,TC,TD,TE,TF,TG,TH,TI,TJ,TK,TL,TM,TN,TO,TP,TQ,TR,TS,",
    "TT,TU,TV,TW,TX,TY,TZ,E?eaA,RB,RC,RD,RE,RF,RG,RH,RI,RJ,RK,RL,RM,RN,RO,RP,RQ,RR,RS,RT,RU,RV,RW",
    ",RX,RY,RZ,8<GIyZjO,0NEGAsVt;i.NUMBj EiVq,OTWELVE,P|RTEq,OF%RTEq,PIFTEq,O:XTEq,PEVqTEq,OEfEq,",
    "ONhETEq,OTWqTY,0D%Bi ;i.<GIylE,LTWO,MHvE,LF%R,MIVE,L:X,MEVq,LEf,LNhE,FNUMBj Tq,0NEGAsVt;i.<G",
    "IyZjO,0BOX DzWhG!Lf H+IZlTe,D*AVY H+IZlTe,DLf VjsCe,D*AVY VjsCe,DLf TRIPi DASH H+IZlTe,D*AVY",
    " TRIPi DASH H+IZlTe,DLf TRIPi DASH VjsCe,D*AVY TRIPi DASH VjsCe,DLf QUADRUPi DASH H+IZlTe,D*",
    "AVY QUADRUPi DASH H+IZlTe,DLf QUADRUPi DASH VjsCe,D*AVY QUADRUPi DASH VjsCe,DLf DrN k.Rf,DDr",
    "N Lf k.Rf *AVY,I*AVY k.Rf Lf,D*AVY DrN k.Rf,DLf DrN k.iFT,DDrN Lf k.iFy*AVY,I*AVY k.iFyLf,D*",
    "AVY DrN k.iFT,DLf UP k.Rf,DUP Lf k.Rf *AVY,G*AVY k.Rf Lf,D*AVY UP k.Rf,DLf UP k.iFT,DUP Lf k",
    ".iFy*AVY,G*AVY k.iFyLf,D*AVY UP k.iFT,DLf VjsCe k.Rf,DVjsCe Lf k.Rf *AVY,DUP *AVY k.Rf DrN L",
    "f,DDrN *AVY k.Rf UP Lf,DVjsCe *AVY k.Rf Lf,DDrN Lf k.Rf UP *AVY,DUP Lf k.Rf DrN *AVY,D*AVY V",
    "jsCe k.Rf,DLf VjsCe k.iFT,DVjsCe Lf k.iFy*AVY,DUP *AVY k.iFyDrN Lf,DDrN *AVY k.iFyUP Lf,DVjs",
    "Ce *AVY k.iFyLf,DDrN Lf k.iFyUP *AVY,DUP Lf k.iFyDrN *AVY,D*AVY VjsCe k.iFT,DLf DrN k.H+IZlT",
    "e,EEFy*AVY k.Rf DrN Lf,DRf *AVY k.iFyDrN Lf,DDrN Lf k.H+IZlTe *AVY,I*AVY k.H+IZlTe Lf,DRf Lf",
    " k.iFyDrN *AVY,DiFyLf k.Rf DrN *AVY,D*AVY DrN k.H+IZlTe,DLf UP k.H+IZlTe,EEFy*AVY k.Rf UP Lf",
    ",DRf *AVY k.iFyUP Lf,DUP Lf k.H+IZlTe *AVY,G*AVY k.H+IZlTe Lf,DRf Lf k.iFyUP *AVY,DiFyLf k.R",
    "f UP *AVY,D*AVY UP k.H+IZlTe,DLf VjsCe k.H+IZlTe,EEFy*AVY k.Rf VjsCe Lf,DRf *AVY k.iFyVjsCe ",
    "Lf,DVjsCe Lf k.H+IZlTe *AVY,DUP *AVY k.DrN H+IZlTe Lf,DDrN *AVY k.UP H+IZlTe Lf,DVjsCe *AVY ",
    "k.H+IZlTe Lf,DiFyUP *AVY k.Rf DrN Lf,DRf UP *AVY k.iFyDrN Lf,DiFyDrN *AVY k.Rf UP Lf,DRf DrN",
    " *AVY k.iFyUP Lf,DDrN Lf k.UP H+IZlTe *AVY,DUP Lf k.DrN H+IZlTe *AVY,DRf Lf k.iFyVjsCe *AVY,",
    "DiFyLf k.Rf VjsCe *AVY,D*AVY VjsCe k.H+IZlTe,DLf D%Bi DASH H+IZlTe,D*AVY D%Bi DASH H+IZlTe,D",
    "Lf D%Bi DASH VjsCe,D*AVY D%Bi DASH VjsCe,DD%Bi H+IZlTe,KVjsCe,FWNmhGi k.Rf D%Bi,ID%Bi k.Rfmh",
    "Gi,FUBi DrN k.Rf,FWNmhGi k.iFyD%Bi,ID%Bi k.iFTmhGi,FUBi DrN k.iFT,DUPmhGi k.Rf D%Bi,GD%Bi k.",
    "RfmhGi,DD%Bi UP k.Rf,DUPmhGi k.iFyD%Bi,GD%Bi k.iFTmhGi,DD%Bi UP k.iFT,DVjsCemhGi k.Rf D%Bi,M",
    "D%Bi k.RfmhGi,DD%Bi VjsCe k.Rf,DVjsCemhGi k.iFyD%Bi,MD%Bi k.iFTmhGi,DD%Bi VjsCe k.iFT,FWNmhG",
    "i k.H+IZlTe D%Bi,ID%Bi k.H+IZlTemhGi,FUBi DrN k.H+IZlTe,DUPmhGi k.H+IZlTe D%Bi,GD%Bi k.H+IZl",
    "TemhGi,DD%Bi UP k.H+IZlTe,DVjsCemhGi k.H+IZlTe D%Bi,MD%Bi k.H+IZlTemhGi,DD%Bi VjsCe k.H+IZlT",
    "e,DLf dC DrN k.Rf,WiFT,NUP k.iFT,URf,J<AGle UPPj Rf TO Lrj iFT,YiFyTO Lrj Rf,SC^SS,JiFT,JUP,",
    "JRf,JDrN,D*AVY iFT,JUP,JRf,JDrN,DLf iFyk.*AVY Rf,JUP k.*AVY DrN,D*AVY iFyk.Lf Rf,JUP k.Lf Dr",
    "N,0UPPj HeF BLOCK,0Lrj ltEfH BLOCK,AQUdTj BLOCK,6xvtEfH!BLOCK,6HeF BLOCK,6FIVtEfH!BLOCK,6xvt",
    "QUdTj!BLOCK,6SEVq EfH!BLOCK,0FULL BLOCK,0iFTmEVq EfH!BLOCK,5xvtQUdTj!BLOCK,5FIVtEfH!BLOCK,5H",
    "eF BLOCK,5xvtEfH!BLOCK,5ltQUdTj BLOCK,9EfH BLOCK,0Rf HeF BLOCK,0LfmuDE,0_<UMmuDE,0DdKmuDE,0U",
    "PPj ltEfH BLOCK,0Rf ltEfH BLOCK,0QUADRkyLrj iFT,FRf,9UPPj iFT,J k.Lrj iFyk.Lrj Rf,URf,OUPPj ",
    "Rf k.Lrj iFT,kRf,FRf,K k.Lrj iFT,Z k.Lrj Rf,0B$CKmQUdE,0W|TEmQUdE,CbR%NDoC+NjS,DCl&hhG B$CKm",
    "MeLmQUdE,0SQUdEbH+IZlTe FILL,CVjsCe FILL,C+xOGle C^SSuTCH FILL,CUPPj iFyTO Lrj Rf FILL,IRf T",
    "O Lrj iFyFILL,C<AGle C^SSuTCH FILL,0B$CKmMeLmQUdE,0W|TEmMeLmQUdE,0B$CK vCTkGi,0W|TtvCTkGi,0B",
    "$CK VjsCe vCTkGi,0W|TtVjsCe vCTkGi,0B$CK PdeiLOGzM,0W|TtPdeiLOGzM,0B$CK UP-POhThG TRIkGi,0W|",
    "TtUP-POhThG TRIkGi,0B$CK UP-POhThGmMeL TRIkGi,0W|TtUP-POhThGmMeL TRIkGi,0B$CK Rf-POhThG TRIk",
    "Gi,0W|TtRf-POhThG TRIkGi,0B$CK Rf-POhThGmMeL TRIkGi,0W|TtRf-POhThGmMeL TRIkGi,0B$CK Rf-POhTh",
    "G POhTj,0W|TtRf-POhThG POhTj,0B$CK DrN-POhThG TRIkGi,0W|TtDrN-POhThG TRIkGi,0B$CK DrN-POhThG",
    "mMeL TRIkGi,0W|TtDrN-POhThGmMeL TRIkGi,0B$CK iFT-POhThG TRIkGi,0W|TtiFT-POhThG TRIkGi,0B$CK ",
    "iFT-POhThGmMeL TRIkGi,0W|TtiFT-POhThGmMeL TRIkGi,0B$CK iFT-POhThG POhTj,0W|TtiFT-POhThG POhT",
    "j,0B$CK <AMlD,0W|Tt<AMlD,D Cl&hhG B$CKmMeL <AMlD,0FIS*YE,0LOZqGE,0W|Tt;i,0DOTTo;i,0;ibVjsCe ",
    "FILL,0BULLSEYE,1$CK ;i,0;ibiFyHeF B$CK,CRf HeF B$CK,CLrj HeF B$CK,CUPPj HeF B$CK,IRf QUADRky",
    "B$CK,CeL BUyUPPj iFyQUADRkyB$CK,0iFyHeF B$CK ;i,0Rf HeF B$CK ;i,0hVjStBULiT,8W|Tt;i,0UPPj He",
    "F hVjStW|Tt;i,0Lrj HeF hVjStW|Tt;i,0UPPj iFyQUADRky;ULd dC,6Rf QUADRky;ULd dC,0Lrj Rf QUADRk",
    "y;ULd dC,6iFyQUADRky;ULd dC,0UPPj HeF ;i,0Lrj HeF ;i,0B$CK Lrj Rf TRIkGi,CiFyTRIkGi,6UPPj iF",
    "yTRIkGi,CRf TRIkGi,0W|TtBULiT,0SQUdEbiFyHeF B$CK,CRf HeF B$CK,CUPPj iFy<AGle HeF B$CK,CLrj R",
    "f <AGle HeF B$CK,0W|TEmQUdEbVjsCe BISECThG LhE,6UP-POhThG TRIkGibDOT,0UP-POhThG TRIkGibiFyHe",
    "F B$CK,QRf HeF B$CK,0LdGt;i,0W|TEmQUdEbUPPj iFyQUADRkT,ILrj iFyQUADRkT,ORf QUADRkT,IUPPj Rf ",
    "QUADRkT,6;ibUPPj iFyQUADRkT,ILrj iFyQUADRkT,ORf QUADRkT,IUPPj Rf QUADRkT,0UPPj iFyTRIkGi,6Rf",
    " TRIkGi,0Lrj iFyTRIkGi,0W|Tt_<UMmQUdE,0B$CK _<UMmQUdE,0W|Tt_<UMmMeLmQUdE,0B$CK _<UMmMeLmQUdE",
    ",0Lrj Rf TRIkGi,0B$CKmUNbzYS,0CL%D,0UMBvL$,0SNrMk,0CO_T,0B$CKmTd,0W|TEmTd,0LfNhG,0xUNDjST+M,",
    "0SUN,0ASCqDhG NODE,0DESCqDhG NODE,0ClJUNCsl,0OPPO:sl,0B$CK TEiPHlE,0W|TtTEiPHlE,0BeLOyBOX,Ab",
    "C*CK,GX,0Sesv,0UMBvL$bzh D^PS,0HOyBEVjAGE,0W|TEmHOGI PIECE,0B$CKmHOGI PIECE,0SuM^CK,0vVjSo^&",
    "ToFL+e *dyBULiT,0B$CK iFyPOhThG hDEX,6Rf POhThG hDEX,0W|TtiFyPOhThG hDEX,6UP POhThG hDEX,6Rf",
    " POhThG hDEX,6DrN POhThG hDEX,0SKULL k.C^SSBlES,0CAUslmw,0z<OACsVEmw,0BIOuZdDmw,0CADUCEUS,0k",
    "KH,0+xODOX C^SS,0C| RHO,1^S!OF L+zhE,9JjUSeEM,0STd k.CvSCqT,0Fd:m>,0A<muKs,0uMMj kDmICKi,0PE",
    "ACEm>,0Yh YkG,0TRIGzM F+ *AVq,C$KE,CFIv,CxUNDj,CWhD,DATj,CM%N&h,CEdx,0W*EL OF DHd~,2ITtFRrNh",
    "G FACE,6?ILhG FACE,0B$CKmMILhG FACE,0W|TEmUNbzYS,0FIRSyQUdTj MOl,0$SyQUdTj MOl,0MjCURY,0FEMe",
    "Emw,0Edx,0MeEmw,0JUPITj,0SATURN,0URkUS,0NEPTUNE,0PLUTO,0dIES,0&URUS,0GEMhI,0CkCj,0iO,0VIRGO,",
    "0LIBz,0SC+PIUS,1AGITTdIUS,0CAPRIC+N,0AQUdIUS,0PISCES,0W|TtC*S!KhG,CQUEq,C^OK,CBISHOP,CKNf,CP",
    "AWN,0B$CK C*S!KhG,CQUEq,C^OK,CBISHOP,CKNf,CPAWN,6SPADEmUIT,0W|Tt*dTmUIT,6<AMlDmUIT,0B$CK CLU",
    "BmUIT,0W|TEmPADEmUIT,0B$CK *dTmUIT,6<AMlDmUIT,0W|TtCLUBmUIT,0HOTmPRhGS,0QUdTj NOTE,0EfH NOTE",
    ",0BEAMoEfH NOTES,7:XTEqx NOTES,0MU:C F$Tmw,6NATURemw,6SHdPmw,0WESTmYRIAC C^SS,0EASTmYRIAC C^",
    "SS,0UNIVjSe vCYCLhGm>,0vCYCLhGm> F+ TYPE-1 P$SsCS,Q2 P$SsCS,Q3 P$SsCS,Q4 P$SsCS,Q5 P$SsCS,Q6",
    " P$SsCS,Q7 P$SsCS,LGqjIC ~TjIeS,0B$CK UNIVjSe vCYCLhGm>,0vCYCi.PAPjm>,0PdseLY-vCYCi.PAPjm>,1",
    "jMkqyPAPjmw,0W*ELCuIRm>,0<tFACE-1,92,93,94,95,96,0W|Tt;ibDOyRf,ITWO DOTS,0B$CK ;ibW|TtDOyRf,",
    "ITWO W|TtDOTS,0MlOGzM F+ YkG,Eh,0<GzM F+ GvATj YkG,BiSSj Yh,JkG,BGvATj Yh,0W|TtF$G,0B$CK F$G",
    ",0uMMj k.PICK,0kCH+,0C^SSEDmW+DS,0S&FF OF AESCU$PIUS,1CeES,0eEMBIC,0FLrj,0GEd,0S&FF OF Hj_S,",
    "0ATOMm>,0FiUR-DE-LIS,0%TLhoW|TEmTd,0xvtLhE!ClVjGhG Rf,NiFT,0WdNhGmw,0|GH VOL&GEmw,0D%Bi.FEMe",
    "Emw,8MeEmw,0hTjLOCKoFEMetk.MeEmw,0Metk.FEMeEmw,5WIxmT^KEmw,Hk.Metk.FEMeEmw,0VjsCe MeEbST^KEm",
    "w,0H+IZlTe MeEbST^KEmw,0_<UM W|Tt;i,7B$CK ;i,7?eL W|Tt;i,1dRIAGEm>,0<V+CEm>,0UNMdRIoPdTNjS|P",
    "m>,0COFFh,0FUNje URN,0NEUTj,0CjES,0Pe$S,0JUNO,0VES&,0C|Rl,0B$CK MOl LILIx,0SEXsi,2MISEXsi,0Q",
    "UhCUNX,0SESQUIQUADzTE,1OCCj BeL,0BASEBeL,0SQUdoKEY,0W|TtDzUGHT!Mk,FKhG,0B$CK DzUGHT!Mk,FKhG,",
    "0SNrMk WIx%TmNr,1UN BEHh.CL%D,0zh,0B$CKmNrMk,0xUNDj CL%.k.zh,1URNoW|TEmHOGI PIECE,7B$CKmHOGI",
    " PIECE,0W|Tt<AMl.hmQUdE,0C^SShG LkES,0<SABi.Cd,0OP|UCHUS,0PICK,0CdmLIDhG,0*L_TbW|TtC^SS,0;i.",
    "C^SShG LkES,1uhS,0NO qTRY,0eTjNATtlE-WAY iFyWAY TzFFIC,0B$CK TWO-WAY iFyWAY TzFFIC,0W|TtTWO-",
    "WAY iFyWAY TzFFIC,0B$CK iFyLktMjGE,0W|TtiFyLktMjGE,0DRIVEmLrmw,0*AVY W|TtDrN-POhThG TRIkGi,0",
    "iFyCLOSoqTRY,0SQUdEDmesv,0FeLhG <AGle h W|Tt;i h B$CKmQUdE,0B$CK TRUCK,0vSTRICToiFyqTRY-1,M2",
    ",0ASTRlOMICem> F+ URkUS,0*AVY ;ibST^Ktk.TWO DOTSn,0Pq&GzM,0Rf-HkDohTj$CoPq&GzM,0iFT-HkDohTj$",
    "CoPq&GzM,0hVjToPq&GzM,0B$CK C^S!lm|ELD,0SHhTOmHRhE,0CHURCH,1ASTi,0|ST+ICmITE,0GEd WIx%yHUB,9",
    " HkDiS,0~Pm> F+ LfH%SE,1%N&h,0UMBvL$ l GR%ND,0F%N&h,1$G h HOi,1jRY,0SAILBOAT,1QUdtF%R C+NjS,",
    "1KIj,0ICEmKATE,0PjSlbBeL,0TqT,0JAPkEStBkKm>,0*ADSTltGzVEYdDm>,0FUEL PUMP,0CUP l B$CKmQUdE,0W",
    "|TtF$GbH+IZlTe MIDDi B$CKmTRIPE,0B$CKmAFETYmCISS+S,0UPPj B$DEmCISS+S,0B$CKmCISS+S,0Lrj B$DEm",
    "CISS+S,0W|TEmCISS+S,6*AVY C*CK MdK,0TEiPHltLOCAslmw,1APtDRIVE,0AIRPLkE,0qVELOPE,0zISoFIST,7H",
    "kD,0VICT+Y HkD,0WRIThG HkD,0Lrj Rf PqCIL,0PqCIL,0UPPj Rf PqCIL,0W|TtNIB,0B$CK NIB,0C*CK MdK,",
    "0*AVY C*CK MdK,0MULsPLICAsl X,0*AVY MULsPLICAsl X,0BeLOyX,0*AVY BeLOyX,0%TLhoGvEK C^SS,0*AVY",
    " GvEK C^SS,0OPq CqTRtC^SS,0*AVY OPq CqTRtC^SS,0$Th C^SS,0SuDroW|Tt$Th C^SS,0%TLho$Th C^SS,0M",
    "eTEStC^SS,0STd OF DAVID,0F%R TEdD^P-SPOKoASTjISK,5BeLOl-SPOKoASTjISK,0*AVY F%R BeLOl-SPOKoAS",
    "TjISK,0F%R CLUB-SPOKoASTjISK,0B$CK F%R POhTEDmTd,0W|TtF%R POhTEDmTd,0SPdKiS,1TvS!%TLhoW|TEmT",
    "d,0;i.W|TEmTd,0OPq CqTRtB$CKmTd,0B$CK CqTRtW|TEmTd,0%TLhoB$CKmTd,0*AVY %TLhoB$CKmTd,0PhW*ELm",
    "Td,0SuDroW|TEmTd,0*AVY ASTjISK,0OPq CqTRtASTjISK,0EfmPOKoASTjISK,6POhToB$CKmTd,EPhW*ELmTd,0:",
    "X POhToB$CKmTd,0Ef POhTovCsLhEd B$CKmTd,0*AVY Ef POhTovCsLhEd B$CKmTd,0TWELVtPOhToB$CKmTd,0:",
    "XTEq POhToASTjISK,0TEdD^P-SPOKoASTjISK,0OPq CqTRtTEdD^P-SPOKoASTjISK,0*AVY TEdD^P-SPOKoASTjI",
    "SK,0:X PETei.B$CK k.W|TtFLOvTTE,0B$CK FLOvTTE,0W|TtFLOvTTE,0Ef PETei.%TLhoB$CK FLOvTTE,0;i.O",
    "Pq CqTRtEf POhTEDmTd,0*AVY TEdD^P-SPOKoPhW*EL ASTjISK,0SNrF$KE,0Tf TRIFOLIATEmNrF$KE,0*AVY C",
    "*VRlmNrF$KE,0SPdKi,0*AVYmPdKi,0BeLOl-SPOKoASTjISK,0Ef TEdD^P-SPOKoP^PELiR ASTjISK,0*AVY Ef T",
    "EdD^P-SPOKoP^PELiR ASTjISK,0C^S!MdK,0SuDroW|Tt;i,0NEGAsVEmQUdoC^S!MdK,0Lrj Rf D^P-SuDroW|TEm",
    "QUdE,0UPPj Rf D^P-SuDroW|TEmQUdE,0Lrj RfmuDroW|TEmQUdE,0UPPj RfmuDroW|TEmQUdE,0B$CK QUESsl M",
    "dK +NAMqT,0W|TtQUESsl MdK +NAMqT,6EXC$~sl MdK +NAMqT,0B$CK <AMl.MhU!W|TtX,0*AVY EXC$~sl MdKm",
    ">,0Lf VjsCe Bd,0_<UM VjsCe Bd,0*AVY VjsCe Bd,6ShGi TURNoCOM~ QUO&sl MdK +NAMqT,DCOM~ QUO&sl ",
    "MdK +NAMqT,6D%Bi TURNoCOM~ QUO&sl MdK +NAMqT,DCOM~ QUO&sl MdK +NAMqT,6LrmhGi COM~ QUO&sl MdK",
    " +NAMqT,AD%Bi COM~ QUO&sl MdK +NAMqT,0CURVEDmTEM PdAGzPHmw +NAMqT,0*AVY EXC$~sl MdK +NAMqT,6",
    "*dyEXC$~sl MdK +NAMqT,6B$CK *dT,0^&To*AVY B$CK *dyBULiT,0FL+e *dT,0^&ToFL+e *dyBULiT,0_<UM i",
    "FyPdqxE:!+NAMqT,7Rf PdqxE:!+NAMqT,7F$TTqoiFyPdqxE:!+NAMqT,HRf PdqxE:!+NAMqT,7iFT-POhThG kGi ",
    "BzCKEy+NAMqT,7Rf-POhThG kGi BzCKEy+NAMqT,0*AVY iFT-POhThG kGi QUO&sl MdK +NAMqT,6Rf-POhThG k",
    "Gi QUO&sl MdK +NAMqT,6iFT-POhThG kGi BzCKEy+NAMqT,6Rf-POhThG kGi BzCKEy+NAMqT,0Lf iFyT+TOISE",
    "m*LL BzCKEy+NAMqT,6Rf T+TOISEm*LL BzCKEy+NAMqT,0_<UM iFyCURLY BzCKEy+NAMqT,7Rf CURLY BzCKEy+",
    "NAMqT,0DhGBAyNEGAsVt;i.<GIylE,VTWO,WHvE,VF%R,WIVE,V:X,WEVq,VEf,VNhE,PNUMBj Tq,8;iDmkS-SjIF <",
    "GIylE,XTWO,YHvE,XF%R,YIVE,X:X,YEVq,XEf,XNhE,RNUMBj Tq,8NEGAsVt;iDmkS-SjIF <GIylE,gTWO,hHvE,g",
    "F%R,hIVE,g:X,hEVq,gEf,gNhE,aNUMBj Tq,0*AVY WIDE-*ADoRfWdD!dRr,6PLUSmw,6MhUSmw,6<VI:lmw,6S%x ",
    "EASydRr,6RfWdD!dRr,6N+x EASydRr,0DzFThG POhyRfWdD!dRr,0*AVY R%ND-sPPoRfWdD!dRr,0TRIkGi-*ADoR",
    "fWdD!dRr,0*AVY TRIkGi-*ADoRfWdD!dRr,0DASHoTRIkGi-*ADoRfWdD!dRr,0*AVY DASHoTRIkGi-*ADoRfWdD!d",
    "Rr,0B$CK RfWdD!dRr,0xvE-.TOP-LfoRfWdD!dRr*AD,8BOTTOM-LfoRfWdD!dRr*AD,0B$CK RfWdD!dRr*AD,0*AV",
    "Y B$CK CURVoDrNWdD!k.RfWdD!dRr,JUPWdD!k.RfWdD!dRr,0SQUAyB$CK RfWdD!dRr,0*AVY ClCAVE-POhToB$C",
    "K RfWdD!dRr,0Rf-SuDoW|TtRfWdD!dRr,0iFT-SuDoW|TtRfWdD!dRr,0BACK-sLTEDmuDroW|TtRfWdD!dRr,0FRlT",
    "-sLTEDmuDroW|TtRfWdD!dRr,0*AVY Lrj Rf-SuDroW|TtRfWdD!dRr,6UPPj Rf-SuDroW|TtRfWdD!dRr,0NOTCHo",
    "Lrj Rf-SuDroW|TtRfWdD!dRr,0CURLY LOOP,0NOTCHoUPPj Rf-SuDroW|TtRfWdD!dRr,0;i.*AVY W|TtRfWdD!d",
    "Rr,0W|TE-FEAxjoRfWdD!dRr,0B$CK-FEAxjEDm%x EASydRr,GRfWdD!dRr,GN+x EASydRr,0*AVY B$CK-FEAxjED",
    "m%x EASydRr,MRfWdD!dRr,MN+x EASydRr,0TEdD^P-BdBoRfWdD!dRr,0*AVY TEdD^P-SHkKoRfWdD!dRr,0WEDGE",
    "-&Ii.RfWdD!dRr,0*AVY WEDGE-&Ii.RfWdD!dRr,0OPq-%TLhoRfWdD!dRr,0D%Bi CURLY LOOP,0xvt<Mq:le kGi",
    ",0W|TtTRIkGi Cl&hhGmMeL W|TtTRIkGi,0PjPq<CULd,0OPqmUBSET,7PjSET,0iFTm-SuPoBAG DELIMITj,0Rfm-",
    "SuPoBAG DELIMITj,0+bDOyh:DE,0vVjSEmOLIDU!PvCEDhGmUBSET,0SUPjSEyPvCEDhGmOLIDUS,0VjsCe BdbH+IZ",
    "lTemT^KE,0~xE~sCe RIShG <AGle,0LlG <VI:l,0~xE~sCe FeLhG <AGle,0SQUdoLOGICe kD,G+,0W|Tt<AMlDb",
    "CqTRoDOT,0kDbDOT,0EiMqyOF OPqhG UPWdDS,0Lrj Rf C+NjbDOT,0UPPj iFyC+NjbDOT,0iFy%Tj JOh,0Rf %T",
    "j JOh,0FULL %Tj JOh,0LdGtUP &CK,6DrN &CK,1EFyk.Rf D%Bi TURNSsi,F&CK,5MULs~P,1lG Rf &CK,5iFy&",
    "CK,0UP &CKb;in,0LOZqGt<VIDoBY H+IZlTe RUi,0W|TtClCAVE-:Do<AMlD,RbiFTWdD!sCK,XRfWdD!sCK,6SQUd",
    "EbiFTWdD!sCK,IRfWdD!sCK,0~xE~sCe iFyW|TEmQUdtBzCKET,DRf W|TEmQUdtBzCKET,DiFykGi BzCKET,DRf k",
    "Gi BzCKET,DiFyD%Bi kGi BzCKET,DRf D%Bi kGi BzCKET,DiFyW|TtT+TOISEm*LL BzCKET,DRf W|TtT+TOISE",
    "m*LL BzCKET,DiFyF$TTqoPdqxE:S,DRf F$TTqoPdqxE:S,0UPWdD!QUADRUPi dRr,0DrNWdD!QUADRUPi dRr,0ks",
    "CLOCKWIStGAPPo;i dRr,0CLOCKWIStGAPPo;i dRr,0Rf dRrb;i.PLUS,0LlG iFTWdD!dRr,5RfWdD!dRr,5iFyRf",
    " dRr,9WdD!D%Bi dRr,5RfWdD!D%Bi dRr,5iFyRf D%Bi dRr,9WdD!dRr F^M Bd,5RfWdD!dRr F^M Bd,5iFTWdD",
    "!D%Bi dRr F^M Bd,5RfWdD!D%Bi dRr F^M Bd,GSQUIGGi dRr,0BzILi PATTjN BLkK,GDOTS-1,L2,L12,L3,L1",
    "3,L23,L123,L4,L14,L24,L124,L34,L134,L234,L1234,L5,L15,L25,L125,L35,L135,L235,L1235,L45,L145,",
    "L245,L1245,L345,L1345,L2345,L12345,L6,L16,L26,L126,L36,L136,L236,L1236,L46,L146,L246,L1246,L",
    "346,L1346,L2346,L12346,L56,L156,L256,L1256,L356,L1356,L2356,L12356,L456,L1456,L2456,L12456,L",
    "3456,L13456,L23456,L123456,L7,L17,L27,L127,L37,L137,L237,L1237,L47,L147,L247,L1247,L347,L134",
    "7,L2347,L12347,L57,L157,L257,L1257,L357,L1357,L2357,L12357,L457,L1457,L2457,L12457,L3457,L13",
    "457,L23457,L123457,L67,L167,L267,L1267,L367,L1367,L2367,L12367,L467,L1467,L2467,L12467,L3467",
    ",L13467,L23467,L123467,L567,L1567,L2567,L12567,L3567,L13567,L23567,L123567,L4567,L14567,L245",
    "67,L124567,L34567,L134567,L234567,L1234567,L8,L18,L28,L128,L38,L138,L238,L1238,L48,L148,L248",
    ",L1248,L348,L1348,L2348,L12348,L58,L158,L258,L1258,L358,L1358,L2358,L12358,L458,L1458,L2458,",
    "L12458,L3458,L13458,L23458,L123458,L68,L168,L268,L1268,L368,L1368,L2368,L12368,L468,L1468,L2",
    "468,L12468,L3468,L13468,L23468,L123468,L568,L1568,L2568,L12568,L3568,L13568,L23568,L123568,L",
    "4568,L14568,L24568,L124568,L34568,L134568,L234568,L1234568,L78,L178,L278,L1278,L378,L1378,L2",
    "378,L12378,L478,L1478,L2478,L12478,L3478,L13478,L23478,L123478,L578,L1578,L2578,L12578,L3578",
    ",L13578,L23578,L123578,L4578,L14578,L24578,L124578,L34578,L134578,L234578,L1234578,L678,L167",
    "8,L2678,L12678,L3678,L13678,L23678,L123678,L4678,L14678,L24678,L124678,L34678,L134678,L23467",
    "8,L1234678,L5678,L15678,L25678,L125678,L35678,L135678,L235678,L1235678,L45678,L145678,L24567",
    "8,L1245678,L345678,L1345678,L2345678,L12345678,0RfWdD!TWO-*ADodRrbVjsCemT^KE,XD%Bi VjsCemT^K",
    "E,0iFTWdD!D%Bi dRrbVjsCemT^KE,0RfWdD!D%Bi dRrbVjsCemT^KE,0iFyRf D%Bi dRrbVjsCemT^KE,0RfWdD!T",
    "WO-*ADodRr F^M Bd,0iFTWdD!D%Bi dRr F^M Bd,0RfWdD!D%Bi dRr F^M Bd,0DrNWdD!dRrbH+IZlTemT^KE,0U",
    "PWdD!dRrbH+IZlTemT^KE,8TRIPi dRr,0DrNWdD!TRIPi dRr,0iFTWdD!D%Bi DASH dRr,0RfWdD!D%Bi DASH dR",
    "r,0iFTWdD!TRIPi DASH dRr,0RfWdD!TRIPi DASH dRr,CWO-*ADoTRIPi DASH dRr,BdRrbDOTTEDmTEM,0UPWdD",
    "!dRr TO Bd,0DrNWdD!dRr TO Bd,0RfWdD!dRrb&ILbVjsCemT^KE,WD%Bi VjsCemT^KE,BTWO-*ADodRrb&IL,bbV",
    "jsCemT^KE,hD%Bi VjsCemT^KE,0iFTWdD!dRr-&IL,0RfWdD!dRr-&IL,0iFTWdD!D%Bi dRr-&IL,0RfWdD!D%Bi d",
    "Rr-&IL,0iFTWdD!dRr TO B$CK <AMlD,0RfWdD!dRr TO B$CK <AMlD,0iFTWdD!dRr F^M Bd TO B$CK <AMlD,0",
    "RfWdD!dRr F^M Bd TO B$CK <AMlD,0N+x WESykDm%x EASydRr,6EASykDm%x WESydRr,6WESydRrbHOOK,6EASy",
    "dRrbHOOK,0S%x EASydRrbHOOK,6WESydRrbHOOK,0N+x WESydRr k.N+x EASydRr,6EASydRr kDm%x EASydRr,0",
    "S%x EASydRr kDm%x WESydRr,6WESydRr k.N+x WESydRr,0RIShG <AGle C^SShG FeLhG <AGle,0FeLhG <AGl",
    "e C^SShG RIShG <AGle,0S%x EASydRr C^SShG N+x EASydRr,0N+x EASydRr C^SShGm%x EASydRr,0FeLhG <",
    "AGle C^SShG N+x EASydRr,0RIShG <AGle C^SShGm%x EASydRr,0N+x EASydRr C^SShG N+x WESydRr,6WESy",
    "dRr C^SShG N+x EASydRr,0WAVtdRr POhThG <vCTLY Rf,0dRr POhThG RfWdD!xq CURVhG UPWdDS,dDrNWdDS",
    ",FDrNWdD!xq CURVhG iFTWdDS,cRfWdDS,0Rf-:DtdC CLOCKWIStdRr,0iFT-:DtdC ksCLOCKWIStdRr,0TOP dC ",
    "ksCLOCKWIStdRr,0BOTTOM dC ksCLOCKWIStdRr,0TOP dC CLOCKWIStdRrbMhUS,8ksCLOCKWIStdRrbPLUS,0Lrj",
    " RfmEMI;ULd CLOCKWIStdRr,6iFTmEMI;ULd ksCLOCKWIStdRr,0ksCLOCKWIStCLOSo;i dRr,0CLOCKWIStCLOSo",
    ";i dRr,0RfWdD!dRrnmH+yiFTWdD!dRr,0iFTWdD!dRrnmH+yRfWdD!dRr,0SH+yRfWdD!dRrn iFTWdD!dRr,0RfWdD",
    "!dRrbPLU!BELr,0iFTWdD!dRrbPLU!BELr,0RfWdD!dRr xR%GH X,0iFyRf dRr xR%GHmMeL ;i,0UPWdD!TWO-*AD",
    "odRr F^MmMeL ;i,0iFyBdB UP Rf BdB DrN HdPOl,ADrN Rf BdB UP HdPOl,0UP BdB Rf DrN BdB iFyHdPOl",
    ",8iFyDrN BdB Rf HdPOl,0iFyBdB UP Rf BdB UP HdPOl,0UP BdB Rf DrN BdB Rf HdPOl,0iFyBdB DrN Rf ",
    "BdB DrN HdPOl,0UP BdB iFyDrN BdB iFyHdPOl,0iFTWdD!HdPOlbBdB UP TO Bd,0RfWdD!HdPOlbBdB UP TO ",
    "Bd,0UPWdD!HdPOlbBdB Rf TO Bd,0DrNWdD!HdPOlbBdB Rf TO Bd,0iFTWdD!HdPOlbBdB DrN TO Bd,0RfWdD!H",
    "dPOlbBdB DrN TO Bd,0UPWdD!HdPOlbBdB iFyTO Bd,0DrNWdD!HdPOlbBdB iFyTO Bd,0iFTWdD!HdPOlbBdB UP",
    " F^M Bd,0RfWdD!HdPOlbBdB UP F^M Bd,0UPWdD!HdPOlbBdB Rf F^M Bd,0DrNWdD!HdPOlbBdB Rf F^M Bd,0i",
    "FTWdD!HdPOlbBdB DrN F^M Bd,0RfWdD!HdPOlbBdB DrN F^M Bd,0UPWdD!HdPOlbBdB iFyF^M Bd,0DrNWdD!Hd",
    "POlbBdB iFyF^M Bd,0iFTWdD!HdPOlbBdB UPn iFTWdD!HdPOlbBdB DrN,0UPWdD!HdPOlbBdB iFyBE:DtUPWdD!",
    "HdPOlbBdB Rf,0RfWdD!HdPOlbBdB UPn RfWdD!HdPOlbBdB DrN,0DrNWdD!HdPOlbBdB iFyBE:DtDrNWdD!HdPOl",
    "bBdB Rf,0iFTWdD!HdPOlbBdB UPn RfWdD!HdPOlbBdB UP,SDrNn RfWdD!HdPOlbBdB DrN,0RfWdD!HdPOlbBdB ",
    "UPn iFTWdD!HdPOlbBdB UP,TDrNn iFTWdD!HdPOlbBdB DrN,0iFTWdD!HdPOlbBdB UPn LlG DASH,SDrN BELr ",
    "LlG DASH,0RfWdD!HdPOlbBdB UPn LlG DASH,TDrN BELr LlG DASH,0UPWdD!HdPOlbBdB iFyBE:DtDrNWdD!Hd",
    "POlbBdB Rf,0DrNWdD!HdPOlbBdB iFyBE:DtUPWdD!HdPOlbBdB Rf,0Rf D%Bi dRrbR%NDo*AD,0EQUeSmwn RfWd",
    "D!dRr,0sLDtOPjAT+n RfWdD!dRr,0iFTWdD!dRrn sLDtOPjAT+,0RfWdD!dRrn sLDtOPjAT+,NeMOSyEQUe TO,0i",
    "SS-xkn iFTWdD!dRr,2FTWdD!dRr xR%GH iSS-xk,0GvATj-xkn RfWdD!dRr,0SUBSETn RfWdD!dRr,0iFTWdD!dR",
    "r xR%GHmUBSET,0SUPjSETn iFTWdD!dRr,0iFyFISH &IL,0Rf FISH &IL,0UP FISH &IL,0DrN FISH &IL,0TRI",
    "Pi VjsCe Bd DELIMITj,0Z NO&slmPOT,BTYPtCOLl,0iFyW|TtCURLY BzCKET,0Rf W|TtCURLY BzCKET,0iFyW|",
    "TtPdqxE:S,0Rf W|TtPdqxE:S,0Z NO&sl iFyI~GtBzCKET,BRf I~GtBzCKET,BiFyBhDhG BzCKET,BRf BhDhG B",
    "zCKET,0iFTmQUdtBzCKETbUNDjBd,0RfmQUdtBzCKETbUNDjBd,0iFTmQUdtBzCKETbsCK h TOP C+Nj,0RfmQUdtBz",
    "CKETbsCK h BOTTOM C+Nj,0iFTmQUdtBzCKETbsCK h BOTTOM C+Nj,0RfmQUdtBzCKETbsCK h TOP C+Nj,0iFyk",
    "Gi BzCKETbDOT,0Rf kGi BzCKETbDOT,0iFydC iSS-xk BzCKET,0Rf dC GvATj-xk BzCKET,0D%Bi iFydC GvA",
    "Tj-xk BzCKET,7Rf dC iSS-xk BzCKET,0iFyB$CK T+TOISEm*LL BzCKET,0Rf B$CK T+TOISEm*LL BzCKET,0D",
    "OTToFqCE,0VjsCe ZIGZAG LhE,0_ASURokGi OPqhG iFT,0Rf kGi VdIkTbSQUdE,0_ASURoRf kGibDOT,0kGib!",
    "h:DE,1CUTtkGi,0SPHjICe kGi OPqhG iFT,OUP,0TURNokGi,0vVjSokGi,0kGibUNDjBd,0vVjSokGibUNDjBd,0O",
    "BLIQUtkGi OPqhG UP,MDrN,0_ASURokGibOPq dM qDhG h dRr POhThG UP k.Rf,ziFT,sDrN k.Rf,z.iFT,sRf",
    " k.UP,siFyk.UP,sRf k.DrN,siFyk.DrN,0vVjSoEMPTYmET,0EMPTYmETbOVjBd,F?eL ;in,FRf dRrn,FiFydRrn",
    ",0;ibH+IZlTe Bd,6.VjsCe Bd,8PdeiL,8vVjSEmOLIDUS,8PjPq<CULd,6 <VIDoBY H+IZlTe Bd k.TOP HeF <V",
    "IDoBY VjsCe Bd,7WIxmUPjIMPOSoX,6.ksCLOCKWISE-^&To<VI:lmw,0UP dRr xR%GH ;i,0;i.W|TtBULiT,8BUL",
    "iT,8iSS-xk,8GvATj-xk,6b?eL ;i TO xtRf,CTWO H+IZlTemT^KE!TO xtRf,0SQUdoRIShG <AGlem$SH,8FeLhG",
    " <AGlem$SH,8ASTjISK,8?eL ;i,9QUdE,0TWO JOhEDmQUdES,1RIkGibDOTn,EUNDjBd,0!h TRIkGi,0TRIkGibSj",
    "IF!AyBOTTOM,0Rf TRIkGin iFyTRIkGi,0iFyTRIkGi BE:DtVjsCe Bd,0VjsCe Bd BE:DtRf TRIkGi,0BrsEbiF",
    "yHeF B$CK,CRf HeF B$CK,1$CK BrsE,0s_SbiFyHeF B$CK,BRf HeF B$CK,0W|TtH%RG$SS,0B$CK H%RG$SS,0i",
    "FyWIGGLY FqCE,0Rf WIGGLY FqCE,0iFyD%Bi WIGGLY FqCE,0Rf D%Bi WIGGLY FqCE,0hCOMPiTthFhITY,0stO",
    "Vj hFhITY,0hFhITY NEGATEDbVjsCe Bd,0D%Bi-qDoMULs~P,0SQUdEbClT%Ro%TLhE,0hCvASE!AS,0SHUFFi P^D",
    "UCT,0EQUeSmw kDmLkToPdeiL,WbsLDEn,0IDqsCe TO kDmLkToPdeiL,0GiICHmTdK,0xjMODYNAMIC,0DrN-POhTh",
    "G TRIkGibiFyHeF B$CK,SRf HeF B$CK,0B$CK <AMlDbDrN dRr,6LOZqGE,0W|Tt;ibDrN dRr,0B$CK ;ibDrN d",
    "Rr,0jR+-BdRoW|TEmQUdE,DB$CKmQUdE,DW|Tt<AMlD,DB$CK <AMlD,DW|Tt;i,DB$CK ;i,0RUi-DE$YED,1EVjSEm",
    "OLIDU!OPjAT+,0SOLIDUSbOVjBd,0vVjSEmOLIDUSbH+IZlTemT^KE,0BIGmOLIDUS,4vVjSEmOLIDUS,0D%Bi PLUS,",
    "0TRIPi PLUS,0iFT-POhThG CURVokGi BzCKET,0Rf-POhThG CURVokGi BzCKET,0ThY,0MhY,0N-dY ;i.DOyOPj",
    "AT+,EPLU!OPjAT+,Es_!OPjAT+,6UNIl OPjAT+bDOT,QPLUS,6SQUdthTjSECsl OPjAT+,DUNIl OPjAT+,0TWO LO",
    "GICe k.OPjAT+,C+ OPjAT+,0N-dY s_!OPjAT+,0MODULO TWOmUM,0SUM~slbhTEGRe,0QUADRUPi hTEGRe OPjAT",
    "+,0FhITtPdyhTEGRe,0hTEGRebD%BimT^KE,9AVjAGEbS$SH,0;U$sl FUNCsl,0ksCLOCKWISthTEGzsl,0LhthTEGz",
    "slbvCTkGULd PAx d%N.POi,MSEMI;ULd PAx d%N.POi,HNOyhCLUDhG xtPOi,0hTEGRe d%N.A POhyOPjAT+,0QU",
    "ATjNIl hTEGRe OPjAT+,0hTEGRebiFTWdD!dRrbHOOK,Es_Smw,EhTjSECsl,EUNIl,EOVjBd,EUNDjBd,0JOh,0LdG",
    "tiFyTRIkGi OPjAT+,0Z NO&slmC*~ COMPO:sl,IPIPhG,J^JECsl,0PLUSmwb?eL ;in,F;UMFiX ACCqTn,FsLDEn",
    ",FDOyBELr,FsLDtBELr,FSUBSCRIPyTWO,FB$CK TRIkGi,0MhUSmwbCOM~n,GDOyBELr,GFeLhG DOTS,GRIShG DOT",
    "S,0PLUSmw h iFyHeF ;i,DRf HeF ;i,0VECT+ + C^S!P^DUCT,0MULsPLICAslmwbDOTn,PUNDjBd,0SEMI<vCyP^",
    "DUCTbBOTTOM CLOSED,1~SH P^DUCT,0MULsPLICAslmw h iFyHeF ;i,NRf HeF ;i,0;i.MULsPLICAslmwb;UMFi",
    "X ACCqT,0MULsPLICAslmw h D%Bi ;i,0;i.<VI:lmw,0PLUSmw h TRIkGi,0MhUSmw h TRIkGi,1ULsPLICAslmw",
    " h TRIkGi,0hTjI+ P^DUCT,0RfHk.hTjI+ P^DUCT,0Z NO&sl v$sle COMPO:sl,0AMeGA~sl + COP^DUCT,0hTj",
    "SECslbDOT,0UNIlbMhUSmw,BOVjBd,0hTjSECslbOVjBd,ILOGICe kD,0UNIlbLOGICe +,6ABOVthTjSECsl,0hTjS",
    "ECsln UNIl,0UNIln Bdn hTjSECsl,0hTjSECsln Bdn UNIl,0UNIl BE:Dtk.JOhEDbUNIl,0hTjSECsl BE:Dtk.",
    "JOhEDbhTjSECsl,0CLOSoUNIlbSjIFS,7hTjSECslbSjIFS,0D%BimQUdthTjSECsl,EUNIl,0CLOSoUNIlbSjIF!kDm",
    "~SH P^DUCT,0LOGICe kDbDOTn,8+bDOTn,0D%Bi LOGICe kD,F+,0TWO hTjSECThG LOGICe kD,P+,0SLOPhG Ld",
    "Gt+,EkD,0LOGICe + OVj$PPhG LOGICe kD,8kDbMIDDimTEM,8+bMIDDimTEM,8kDbH+IZlTe DASH,8+bH+IZlTe ",
    "DASH,8kDbD%Bi OVjBd,HUNDjBd,HD%Bi UNDjBd,0?eL VEEbUNDjBd,0LOGICe +bD%Bi OVjBd,NUNDjBd,0Z NO&",
    "sl DO~h ksvSTRICsl,BRkGtksvSTRICsl,0EQUeSmwbDOyBELr,0IDqsCebDOTn,0TRIPi H+IZlTe BdbD%Bi VjsC",
    "emT^KE,RTRIPi VjsCemT^KE,1ILDtOPjAT+bDOTn,KRIShG DOTS,0:MILd MhUSmIMILd,0ClGRUqTbDOTn,0EQUeS",
    "bASTjISK,0eMOSyEQUe TOb;UMFiX ACCqT,1PP^XI~TELY EQUe + EQUe TO,0EQUeSmwn PLUSmw,0PLUSmwn EQU",
    "eSmw,0EQUeSmwn sLDtOPjAT+,0D%Bi COLl EQUe,0TWO ClSECUsVtEQUeSmwS,1HvtClSECUsVtEQUeSmwS,0EQUe",
    "SmwbTWO DOTSn k.TWO DOT!BELr,3IVeqTbF%R DOTSn,0iSS-xkb;i h:DE,0GvATj-xkb;i h:DE,0iSS-xkbQUES",
    "sl MdKn,0GvATj-xkbQUESsl MdKn,0iSS-xk +mLkToEQUe TO,0GvATj-xk +mLkToEQUe TO,0iSS-xk +mLkToEQ",
    "Ue TObDOyh:DE,0GvATj-xk +mLkToEQUe TObDOyh:DE,0iSS-xk +mLkToEQUe TObDOTn,0GvATj-xk +mLkToEQU",
    "e TObDOTn,0iSS-xk +mLkToEQUe TObDOTn Rf,0GvATj-xk +mLkToEQUe TObDOTn iFT,0iSS-xk + APP^XI~TE",
    ",0GvATj-xk + APP^XI~TE,0iSS-xk kDmhGi-LhtNOyEQUe TO,0GvATj-xk kDmhGi-LhtNOyEQUe TO,0iSS-xk k",
    ".NOyAPP^XI~TE,0GvATj-xk k.NOyAPP^XI~TE,0iSS-xkn D%Bi-LhtEQUen GvATj-xk,0GvATj-xkn D%Bi-LhtEQ",
    "Uen iSS-xk,0iSS-xknmIMILd + EQUe,0GvATj-xknmIMILd + EQUe,0iSS-xknmIMILdn GvATj-xk,0GvATj-xkn",
    "mIMILdn iSS-xk,0iSS-xkn GvATj-xkn D%Bi-LhtEQUe,0GvATj-xkn iSS-xkn D%Bi-LhtEQUe,0iSS-xknmLkTo",
    "EQUen GvATj-xknmLkToEQUe,0GvATj-xknmLkToEQUen iSS-xknmLkToEQUe,0SLkToEQUe TO + iSS-xk,KGvATj",
    "-xk,KiSS-xkbDOyh:DE,KGvATj-xkbDOyh:DE,0D%Bi-LhtEQUe TO + iSS-xk,OGvATj-xk,CSLkToEQUe TO + iS",
    "S-xk,WGvATj-xk,0:MILd + iSS-xk,BGvATj-xk,8ABOVtiSS-xkn EQUeSmw,EGvATj-xkn EQUeSmw,0D%Bi NEST",
    "oiSS-xk,EGvATj-xk,EiSS-xkbUNDjBd,0GvATj-xk OVj$PPhG iSS-xk,DBE:DtiSS-xk,0iSS-xk CLOSoBY CURV",
    "E,0GvATj-xk CLOSoBY CURVE,0iSS-xk CLOSoBY CURVEnmLkToEQUe,0GvATj-xk CLOSoBY CURVEnmLkToEQUe,",
    "0?eiR xk,0LdGj xk,0?eiR xk + EQUe TO,0LdGj xk + EQUe TO,0EQUeSmwbBUMPYn,0PvCEDESnmhGi-LhtEQU",
    "eSmw,0SUCCEEDSnmhGi-LhtEQUeSmw,0PvCEDESnmhGi-LhtNOyEQUe TO,0SUCCEEDSnmhGi-LhtNOyEQUe TO,0PvC",
    "EDESn EQUeSmw,0SUCCEEDSn EQUeSmw,0PvCEDESn NOyEQUe TO,0SUCCEEDSn NOyEQUe TO,0PvCEDESn eMOSyE",
    "QUe TO,0SUCCEEDSn eMOSyEQUe TO,0PvCEDESn NOyeMOSyEQUe TO,0SUCCEEDSn NOyeMOSyEQUe TO,0D%Bi Pv",
    "CEDES,7SUCCEEDS,0SUBSETbDOT,2PjSETbDOT,2BSETbPLUSmw BELr,2PjSETbPLUSmw BELr,2BSETbMULsPLICAs",
    "lmw BELr,2PjSETbMULsPLICAslmw BELr,2BSEyOF + EQUe TObDOTn,2PjSEyOF + EQUe TObDOTn,2BSEyOFn E",
    "QUeSmw,2PjSEyOFn EQUeSmw,2BSEyOFn sLDtOPjAT+,2PjSEyOFn sLDtOPjAT+,2BSEyOFn eMOSyEQUe TO,2PjS",
    "EyOFn eMOSyEQUe TO,2BSEyOFn NOyEQUe TO,2PjSEyOFn NOyEQUe TO,1QUdtiFyOPq BOX OPjAT+,7Rf OPq B",
    "OX OPjAT+,0CLOSEDmUBSET,9PjSET,9BSEy+ EQUe TO,9PjSEy+ EQUe TO,0SUBSETnmUPjSET,2PjSETnmUBSET,",
    "2BSETnmUBSET,2PjSETnmUPjSET,9BE:DEmUBSET,Gk.JOhoBY DASHbSUBSET,0EiMqyOF OPqhG DrNWdDS,0PITCH",
    "F+KbTEtTOP,0TRkSVjSe hTjSECsl,0F+KhG,0NlF+KhG,0SH+yiFy&CK,6DrN &CK,6UP &CK,0PjPq<CULdbS,0Vjs",
    "Ce Bd TRIPi Rf TURNSsi,0D%Bi VjsCe Bd iFyTURNSsi,0VjsCe Bd D%Bi iFyTURNSsi,0D%Bi VjsCe Bd D%",
    "Bi iFyTURNSsi,0LlG DASH F^M iFy_MBj OF D%Bi VjsCe,0SH+yDrN &CKbOVjBd,6UP &CKbUNDjBd,EABOVEmH",
    "+yDrN &CK,0D%Bi DrN &CK,7UP &CK,7ST^KtNOTmw,0vVjSoD%BimT^KtNOTmw,0DOE!NOy<VIDEbvVjSoNEGAslm$",
    "SH,0VjsCe LhEb;in,QBELr,0DrN &CKb;i BELr,0PdeiLbH+IZlTemT^KE,EsLDtOPjAT+,0TRIPi VjsCe Bd Bhd",
    "Y v$sl,KWIx H+IZlTemT^KE,7COLl OPjAT+,7NESToiSS-xk,EGvATj-xk,0D%Bi-LhEmLkToiSS-xk + EQUe TO,",
    "KGvATj-xk + EQUe TO,0TRIPimOLIDU!BhdY v$sl,0LdGtTRIPi VjsCe Bd OPjAT+,0D%BimOLIDU!OPjAT+,0W|",
    "TtVjsCe Bd,0N-dY W|TtVjsCe Bd,1+x EASyW|TtdRr,6WESyW|TtdRr,0S%x EASyW|TtdRr,6WESyW|TtdRr,0iF",
    "yRf W|TtdRr,4WdD!B$CK dRr,0UPWdD!B$CK dRr,0DrNWdD!B$CK dRr,0N+x EASyB$CK dRr,6WESyB$CK dRr,0",
    "S%x EASyB$CK dRr,6WESyB$CK dRr,0iFyRf B$CK dRr,0UP DrN B$CK dRr,0RfWdD!dRrbsP DrNWdDS,QUPWdD",
    "S,0iFTWdD!dRrbsP DrNWdDS,PUPWdDS,0SQUdEbTOP HeF B$CK,CBOTTOM HeF B$CK,CUPPj Rf <AGle HeF B$C",
    "K,CLrj iFy<AGle HeF B$CK,0<AMlDbiFyHeF B$CK,DRf HeF B$CK,DTOP HeF B$CK,DBOTTOM HeF B$CK,1OTT",
    "EDmQUdE,0B$CK LdGEmQUdE,0W|TtLdGEmQUdE,0B$CK VjYmMeLmQUdE,0W|TtVjYmMeLmQUdE,0B$CK Pq&Gl,0W|T",
    "tPq&Gl,6*XAGl,0B$CK *XAGl,0H+IZlTe B$CK *XAGl,0B$CK LdGt;i,6_<UM <AMlD,0W|Tt_<UM <AMlD,0B$CK",
    " _<UM LOZqGE,0W|Tt_<UM LOZqGE,0B$CKmMeL <AMlD,CLOZqGE,0W|TEmMeL LOZqGE,0B$CK H+IZlTe ELLIPSE",
    ",0W|TtH+IZlTe ELLIPSE,0B$CK VjsCe ELLIPSE,0W|TtVjsCe ELLIPSE,0iFydRrb?eL ;i,0xvtiFTWdD!dRrS,",
    "0iFydRrb;i.PLUS,1lG iFTWdDSmQUIGGi dRr,1EFTWdD!TWO-*ADodRrbVjsCemT^KE,WD%Bi VjsCemT^KE,RF^M ",
    "Bd,LTRIPi DASH dRr,AdRrbDOTTEDmTEM,L&ILbVjsCemT^KE,VD%Bi VjsCemT^KE,ATWO-*ADodRrb&IL,abVjsCe",
    "mT^KE,gD%Bi VjsCemT^KE,AdRr xR%GH X,0WAVtdRr POhThG <vCTLY iFT,0EQUeSmwn iFTWdD!dRr,0vVjStsL",
    "DtOPjAT+n iFTWdD!dRr,0iFTWdD!dRrn vVjSteMOSyEQUe TO,0RfWdD!dRr xR%GH GvATj-xk,PSUPjSET,0iFTW",
    "dD!QUADRUPi dRr,0RfWdD!QUADRUPi dRr,1EVjStsLDtOPjAT+n RfWdD!dRr,1fWdD!dRrn vVjSteMOSyEQUe TO",
    ",0sLDtOPjAT+n iFTWdD!dRr,0iFTWdD!dRrn eMOSyEQUe TO,MvVjStsLDtOPjAT+,0RfWdD!dRrn vVjStsLDtOPj",
    "AT+,0DrNWdD!TRIkGi-*ADoZIGZAG dRr,0SH+TmLkToN+x dRr,6BACKSLkTEDm%x dRr,0W|Tt_<UMmTd,0B$CKmMe",
    "LmTd,0W|TEmMeLmTd,0B$CK Rf-POhThG Pq&Gl,0W|TtRf-POhThG Pq&Gl,0*AVY LdGt;i,6OVebOVe h:DE,6;ib",
    ";i h:DE,C,CDmesv,0SLkToN+x dRrbHOOKo*AD,0BACKSLkTEDm%x dRrbHOOKo&IL,0SLkToN+x dRrbH+IZlTe &I",
    "L,0BACKSLkTEDm%x dRrbH+IZlTe &IL,1qydRr POhThG DrNWdD!xq N+x EAST,0SH+yBqydRr POhThG DrNWdD!",
    "xq N+x EAST,0iFTWdD!TRIkGi-*ADodRr,0UPWdD!TRIkGi-*ADodRr,0RfWdD!TRIkGi-*ADodRr,0DrNWdD!TRIkG",
    "i-*ADodRr,0iFyRf TRIkGi-*ADodRr,0UP DrN TRIkGi-*ADodRr,0N+x WESyTRIkGi-*ADodRr,6EASyTRIkGi-*",
    "ADodRr,0S%x EASyTRIkGi-*ADodRr,6WESyTRIkGi-*ADodRr,0iFTWdD!TRIkGi-*ADoDASHodRr,0UPWdD!TRIkGi",
    "-*ADoDASHodRr,0RfWdD!TRIkGi-*ADoDASHodRr,0DrNWdD!TRIkGi-*ADoDASHodRr,0CLOCKWIStTRIkGi-*ADoOP",
    "q ;i dRr,0ksCLOCKWIStTRIkGi-*ADoOPq ;i dRr,0iFTWdD!TRIkGi-*ADodRr TO Bd,0UPWdD!TRIkGi-*ADodR",
    "r TO Bd,0RfWdD!TRIkGi-*ADodRr TO Bd,0DrNWdD!TRIkGi-*ADodRr TO Bd,=2B76,0N+x WESyTRIkGi-*ADod",
    "Rr TO Bd,6EASyTRIkGi-*ADodRr TO Bd,0S%x EASyTRIkGi-*ADodRr TO Bd,6WESyTRIkGi-*ADodRr TO Bd,0",
    "iFTWdD!TRIkGi-*ADodRrbD%Bi H+IZlTemT^KE,0UPWdD!TRIkGi-*ADodRrbD%Bi H+IZlTemT^KE,0RfWdD!TRIkG",
    "i-*ADodRrbD%Bi H+IZlTemT^KE,0DrNWdD!TRIkGi-*ADodRrbD%Bi H+IZlTemT^KE,0H+IZlTe &B KEY,0VjsCe ",
    "&B KEY,0iFTWdD!TRIkGi-*ADodRr OVj RfWdD!TRIkGi-*ADodRr,0UPWdD!TRIkGi-*ADodRr iFTWdD!OF DrNWd",
    "D!TRIkGi-*ADodRr,0RfWdD!TRIkGi-*ADodRr OVj iFTWdD!TRIkGi-*ADodRr,0DrNWdD!TRIkGi-*ADodRr iFTW",
    "dD!OF UPWdD!TRIkGi-*ADodRr,0iFTWdD!TRIkGi-*ADoPAIRodRrS,0UPWdD!TRIkGi-*ADoPAIRodRrS,0RfWdD!T",
    "RIkGi-*ADoPAIRodRrS,0DrNWdD!TRIkGi-*ADoPAIRodRrS,0iFTWdD!B$CK ;i.W|TtdRr,0UPWdD!B$CK ;i.W|Tt",
    "dRr,0RfWdD!B$CK ;i.W|TtdRr,0DrNWdD!B$CK ;i.W|TtdRr,0ksCLOCKWIStTRIkGi-*ADoRf U-SuPodRr,UBOTT",
    "OM U-SuPodRr,UiFyU-SuPodRr,UTOP U-SuPodRr,0vTURN iFT,7Rf,0NEWLhtiFT,8Rf,0F%R C+Nj dRr!;LhG k",
    "sCLOCKWISE,0RfWdD!B$CK dRr,=2B97,0S> F+ TYPtA EiCTRlICS,0xvE-.TOP-LfoiFTWdD!EQUI$Tje dRr*AD,",
    "8Rf-LfoUPWdD!EQUI$Tje dRr*AD,8TOP-LfoRfWdD!EQUI$Tje dRr*AD,8iFT-LfoDrNWdD!EQUI$Tje dRr*AD,0B",
    "$CK iFTWdD!EQUI$Tje dRr*AD,6UPWdD!EQUI$Tje dRr*AD,6RfWdD!EQUI$Tje dRr*AD,6DrNWdD!EQUI$Tje dR",
    "r*AD,0DrNWdD!TRIkGi-*ADodRrbLlG sP iFTWdDS,kRfWdDS,0UPWdD!TRIkGi-*ADodRrbLlG sP iFTWdDS,iRfW",
    "dDS,0iFTWdD!TRIkGi-*ADodRrbLlG sP UPWdDS,0RfWdD!TRIkGi-*ADodRrbLlG sP UPWdDS,0iFTWdD!TRIkGi-",
    "*ADodRrbLlG sP DrNWdDS,0RfWdD!TRIkGi-*ADodRrbLlG sP DrNWdDS,0B$CK CURVoDrNWdD!k.iFTWdD!dRr,R",
    "RfWdD!dRr,DUPWdD!k.iFTWdD!dRr,PRfWdD!dRr,DiFTWdD!k.UPWdD!dRr,DRfWdD!k.UPWdD!dRr,DiFTWdD!k.Dr",
    "NWdD!dRr,DRfWdD!k.DrNWdD!dRr,0RIBBl dRr DrN iFT,IRf,DUP iFT,GRf,DiFyUP,DRf UP,DiFyDrN,DRf Dr",
    "N,0UPWdD!W|TtdRr F^M BdbH+IZlTe Bd,2 dRr*A.h A vCTkGi BOX,0OVj$PPhG W|TEmQUdES,Ik.B$CKmQUdES",
    ",CB$CKmQUdES,0BeLOyBOXbLf X,0;i.X,8BOL.X,0B$CKmQUdtCqTvD,6<AMl.CqTvD,0TURNoB$CK Pq&Gl,0H+IZl",
    "Te B$CK OC&Gl,0B$CK OC&Gl,6_<UM UP-POhThG TRIkGi CqTvD,DDrN-POhThG TRIkGi CqTvD,DiFT-POhThG ",
    "TRIkGi CqTvD,DRf-POhThG TRIkGi CqTvD,0NEPTUNEg TWO,0TOP HeF B$CK ;i,"]

end CharName

end Marginalia
