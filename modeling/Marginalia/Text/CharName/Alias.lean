/-!
# Other names of characters

The names that Unicode 14 gives to control characters, its abbreviations and its corrections, in
the packed form that `CharName.seek` reads.
-/

namespace Marginalia

namespace CharName

/-- The packed other names. -/
def aliases : List String :=
  ["0NUL,=0,3L,0SOH,=1,1TdyOF *ADhG,9TEXT,=2,2X,0q.OF TEXT,=3,1TX,1N.OF TRk?IS:l,=4,1OT,1NQ,=5,3",
    "UIRY,0ACK,=6,3NriDGE,1iRT,=7,0BEL,1ACKSPACE,=8,1S,0CHdACTj &BU$sl,=9,0H+IZlTe &BU$sl,=9,1T,=",
    "9,0&B,0q.OF LhE,=A,1OL,=A,0LF,=A,1htFEED,=A,0NEW LhE,=A,1L,0Lht&BU$sl,=B,0VjsCe &BU$sl,=B,1T",
    ",0FF,=C,1+M FEED,0CdRIAGtvTURN,=D,1R,0LOCKhG-S|FylE,=E,0S|Fy%T,=E,1O,0LOCKhG-S|FyZjO,=F,0S|F",
    "yh,=F,1I,0DA& LhK ESCAPE,=10,1i,1C1,=11,1EVICtClT^L lE,1C2,=12,1EVICtClT^L TWO,1C3,=13,1EVIC",
    "tClT^L xvE,1C4,=14,1EVICtClT^L F%R,0NAK,=15,1EGAsVtACKNriDGE,0SYN,=16,3CHRl%!IDi,0q.OF TRk?I",
    "S:l BLOCK,=17,1TB,0Ck,=18,3CEL,0q.OF _<UM,=19,1OM,0SUB,=1A,3SsTUTE,0ESC,=1B,3APE,0FIimEPdAT+",
    ",=1C,1S,=1C,0hF+~slmEPdAT+ F%R,0GR%PmEPdAT+,=1D,1S,=1D,0hF+~slmEPdAT+ xvE,NWO,=1E,0vC+DmEPdA",
    "T+,=1E,1S,0hF+~slmEPdAT+ lE,=1F,0UNITmEPdAT+,=1F,1S,0SP,=7F,0DEL,=7F,3ETE,0PAD,=80,3DhG CHdA",
    "CTj,0|GH OCTEyPvSET,=81,1OP,0BPH,=82,1vAK PjMITToHjE,0NBH,=83,1O BvAK HjE,0hD,=84,3EX,0NEL,=",
    "85,2XyLhE,0SSA,=86,1TdyOFmEiCTodEA,0q.OFmEiCTodEA,=87,1SA,0CHdACTj &BU$slmET,=88,0H+IZlTe &B",
    "U$slmET,=88,1TS,0CHdACTj &BU$slbJUSsFICAsl,=89,0H+IZlTe &BU$slbJUSsFICAsl,=89,1TJ,0Lht&BU$sl",
    "mET,=8A,0VjsCe &BU$slmET,=8A,1TS,0Pdse LhtDrN,=8B,DF+WdD,=8B,1LD,1dse LhtBACKWdD,=8C,DUP,=8C",
    ",1LU,0vVjSthDEX,=8D,8LhtFEED,=8D,1I,0ShGim|FyTWO,=8E,6-S|FT-2,=8E,1S2,1hGim|FyxvE,=8F,6-S|FT",
    "-3,=8F,1S3,0DCS,=90,1EVICtClT^LmTRhG,0PRIVATtUStlE,=91,B-1,=91,1U1,1RIVATtUStTWO,=92,B-2,=92",
    ",1U2,0SEyTRk?ITm&TE,=93,1TS,0CkCEL CHdACTj,=94,1CH,0_SSAGtWAIThG,=95,1W,0SPA,=96,1TdyOF GUdD",
    "odEA,=96,9P^TECTodEA,0q.OF GUdDodEA,=97,7P^TECTodEA,=97,1PA,0SOS,=98,1TdyOFmTRhG,1GC,=99,1hG",
    "i GzP|C CHdACTj hT^DUCj,1CI,=9A,1hGi CHdACTj hT^DUCj,0ClT^LmEQUqCthT^DUCj,=9B,1:,0ST,=9C,2Rh",
    "G TjMhAT+,0OPjAThGmYSTEM COMMkD,=9D,1SC,0PM,=9E,1RIVACY _SSAGE,0APC,=9F,2PLICAsl P^GzM COMMk",
    "D,0NBSP,=AD,0SHY,=1A2,0$Th caGu,6?eaGu,=34F,0CGJ,=61C,0eM,=709,0SYRIACmUBLhEd COLlmKEWoiFT,=",
    "CDE,0KkNADA iTTj LL$,=E9D,0$O iTTj FO Fl,=E9F,FAY,=EA3,B^,=EA5,BLO,=FD0,0sBETk MdK BKA-mHOG ",
    "GI MGO RGYk,=11EC,0HkGUL JlGSElG YE:EUNG-KIYEOK,QSSkGKIYEOK,HSSkGYE:EUNG,HYE:EUNG-K|EUKH,=18",
    "0B,0FVS1,32,33,0MVS,0FVS4,=200B,0ZWSP,2NJ,2J,0LRM,0RLM,=202A,0Lv,0Ri,0PDF,0L^,0RLO,0NNBSP,=2",
    "05F,0MMSP,0WJ,=2066,0LRI,0RLI,0F:,0P<,=2118,0WEIjSTzS!ELLIPsC FUNCsl,=2448,0MICR l USm>,5DAS",
    "Hm>,=2B7A,0iFTWdD!TRIkGi-*ADodRrbD%Bi VjsCemT^KE,=2B7C,0RfWdD!TRIkGi-*ADodRrbD%Bi VjsCemT^KE",
    ",=A015,0YImYL$Bi ITjAsl MdK,=AA6E,0MYkMd iTTj KuMs L$,=FE00,0VS1,22,23,24,25,26,27,28,29,210",
    ",31,32,33,34,35,36,=FE18,0PvSq&slg F+ VjsCe Rf W|TtiNsCULd BzCKET,=FEFF,0BOM,=FEFF,1YTt+Dj M",
    "dK,=FEFF,0ZWNBSP,=122D4,0CUNEIF+Mmw NU11 TqU,KOVj NU11 BUR OVj BUR,=16E56,0_DEFAIDRh caH,RNG",
    ",=16E76,C?eaH,PNG,=1B001,0Hq&IGkA iTTj E-1,=1D0C5,0BYZkThtMU:Cem> FxOzmKLIRl CH^~ VA:S,=E010",
    "0,0VS17,38,39,220,31,32,33,34,35,36,37,38,39,230,31,32,33,34,35,36,37,38,39,240,31,32,33,34,",
    "35,36,37,38,39,250,31,32,33,34,35,36,37,38,39,260,31,32,33,34,35,36,37,38,39,270,31,32,33,34",
    ",35,36,37,38,39,280,31,32,33,34,35,36,37,38,39,290,31,32,33,34,35,36,37,38,39,2100,41,42,43,",
    "44,45,46,47,48,49,310,41,42,43,44,45,46,47,48,49,320,41,42,43,44,45,46,47,48,49,330,41,42,43",
    ",44,45,46,47,48,49,340,41,42,43,44,45,46,47,48,49,350,41,42,43,44,45,46,47,48,49,360,41,42,4",
    "3,44,45,46,47,48,49,370,41,42,43,44,45,46,47,48,49,380,41,42,43,44,45,46,47,48,49,390,41,42,",
    "43,44,45,46,47,48,49,2200,41,42,43,44,45,46,47,48,49,310,41,42,43,44,45,46,47,48,49,320,41,4",
    "2,43,44,45,46,47,48,49,330,41,42,43,44,45,46,47,48,49,340,41,42,43,44,45,46,47,48,49,350,41,",
    "42,43,44,45,46,"]

end CharName

end Marginalia
