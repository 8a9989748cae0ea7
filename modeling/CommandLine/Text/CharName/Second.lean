/-!
# Second names of characters

Abbreviations, corrected names and other names of characters, and the names of control characters,
in the written form of `CharName`.
-/

namespace CommandLine.Text

/-- the second names of characters, and the names of those that have no other -/
def secondNames : List String :=
  [ "aNULLa=0=NULaST)TlEHEAD&GĒ=SOHƖ'TEXTĽ=STXapFƐ'3=EƐ&z3a=4=EOTa>QUIRYa=5=>QaACKNOWLEDGEa=6=ACKa<*Ta=7=BELaBACKSP"
  , "ACEa=8=BSatWyGa=9=!mƈ$HTƆ#TABanJFEEDa=A=NEWnJƉ#!Ǽ#Ɗ#LFƙ$LƆ#EOLanJǇ#B=!k9ƈ#VTaoLǀ%C=FFaC)RIAGE REłNa=D=CRa.IFT "
  , "OUTa=E=LOCK&G-ƕ$kJƓ#SOƣ%nSa=Fơ-l4Ɠ#SIaD;A L&K ESCAPEĒ0=DŇDEVICEw4kJŀ=DC1Ɠ)IĒ2=DC2Ɠ)LĒ3=DC3Ɠ)NĒ4=DC4atG˘,15=NAK"
  , "aSYN~ļOUS IDLEĒ6=SYN侢&sPĒ7=ETBaC$CELĒ8=CAƠ%mZĒ9=EOMaSUBSTITUTEĒA=SUBaɌ(B=ESCayFqHȏ$C=FILEqHƋ%Sƙ$Ȼ$D=GROUPqHƌ%"
  , "ƚ%ɨ$E=RECORDqHƍ%ƛ&JĿ=UNITqHƋ%SaSPa=7F=DELETEƋ'aPADD&GtWa=ĹPADamNOCTET PRESETa=81=HOPaBREAK P*MITTĪH*Ea=82=BPHa"
  , "o0Ɵ$ƕ'3=NBHanAa=84=&DaNEXTnJa=85=NE儞(SELECTĪ)EƬ#6=oMapFƙ17=ESA僎$Ȓ%8=/2mGƉ$HTSƙ$(JUSTIFICģa=89=/3mGƉ$HTJanJƾ'A="
  , "/2k9Ɖ$VTSaxXnJt?=8B=k7aƇ#PLDƖ$BACKW)Dc=8C=kZaƇ#PLUarK儿%b=8D=ɦ$D=RIam5僞%Ia=8E=S&GLE-Ɠ$-2Ɠ%S2ƥ(La=8Fƥ-3Ɠ%S傥)STR&"
  , "Ga=90=DCSaPRIV;E USEkJb=91=USE-1aƊ#PU1Ơ,Ib=92Ơ$2aƊ#PU2aSET TR$SMIT ST;Ea=93=STS僄&tWa=94=C~aMESSAGE WAITȄ%5=MW"
  , "侺'GU)DĪ)E#=96=!PROT侵$aƐ#SPAapFƩ07Ʃ.7=EPAǕ'ɮ(8=SOSam5GRAPHICtW&TRODUC*a=99=SGCam5Ɨ.A=SCIaw4SEQU>CE ƞ,B=CSIaǢ% T"
  , "*M&;Oƚ#C=STaOP*;ıSYSTEM COMM$ȣ#D=OSC˛%CY ʗ%ʸ#E=PMaAPPLICģ PROGRAƻ+F=APCaNBSPa=AD=.YĒA2=nPĨnZĖkCa=34F=CGJa=61C="
  , "<Ma=709=SYRIAC SUBL&E)qRSKEWEDkHa=CDE=K$NADAkBLLLAa=E9D=LAOkBFO FONd=E9F=FAYc=EA3=ROƈ#5=LOa=FD0=TIBET$kRBKA- ."
  , "OG GI MGO RGY$ŀEC=wUJķSEķ YESIEŃ-KIYEOKcƐ(SS$Gƕ&ƌ$ƚ'cƳ)HIEUKHĒ80B=FVS1+2aMVSaFVS4Ľ00B=ZWSPaZWNJaZWJaLRMaRLMĽ02"
  , "A=LREaRŇPDFaLROaRLOaN˗%205F=MMSPaWJĽ066=LRIaRLIaFSIaPDIĽ118=WEI*STRASS ELLIPTIC FUNCīĽ448=MICRpBUSlGb!q5ĽB7A=k"
  , "2q2kP(kMk9lKƕ$C=/6kWa=A015=YIs2yKkRa=AA6E=MY$M)kBKHAMTIqEa=FEĢɶ#8aVS10+6Ɠ#18=z4oLpGk9kGkUy6nOƗ#FF=BYTE ORD*kR"
  , "Ɠ'OMƊ&ZWɹ%122D4=CUNEIFORMk>U11p,lHƉ# BURlHBURĒ6E56=MEDEFAIDR&ĨHdNGbƛ#76=kCƐ%ĒB001=H>TAIG$AkBE-1ĒD0C5=BYZ$T&EvE"
  , "lGF|ORA SKLIļ ~ROMA VASISa=E01ɰ%7+82ɲ$0+156" ]

end CommandLine.Text
