/-!
# Names of characters from 0 to FFF

The names in order of the code points, in the written form of `CharName`.
-/

namespace CommandLine.Text

def namesFrom0 : List String :=
  [ "Ľ0=vJaq7kR@u8am7kE@DOLL)@P*C>TayLaxGĭq8@kGarUak3kEao4az5apRnYarLalSl4bkJbkIbkLbkNbkQbkYbk4bk0bk5aqRau9anEkE@pX"
  , "@nGaqNkRazX;anPĨ_BdCdDd,FdGdHd[JdKdLdMdNdOdPdQdRdSdTdUdVdWdXdYdZĭmDnOarKrLakGƌ$nNp2al1nJanXp2ǜ#CǜWrZnOak9nJakG"
  , "ƌ$mYa=A0=NO-BREAKvJanH˄$C>TkE@POUND@CURR>CY@Y>aBROK>mHasNʽ#JaCOPYRIGHƶ#FEM&&E ORD&<xIasYkMpOu8kRan5kEaSOFTv3aR"
  , "EGIST*EDǆ#3aDEGREEǹ%LUS-M&USavV侈$anIp2aMICROƢ%ILCROWalCkOas3Ƨ#JaMASCULǽ-rTǽ(VULG)sBkJq_l9ckLvBɴ#NkR侶'(nXfnIfnN"
  , "fmYfoJfmMkKdA,C(s3dEƠ*oJdIƏ-E|dN(mYdOǈ/aw1kEǥ&O(lKdUƼ-Y(n[|ORNį.)P SdȒyxLȒ%CȒAdY(oJbʢ&o3ĸkCƏ'pKƏ,w9Ə)C(nIƏ-NƏ,"
  , "kOkKb/5Ƒ)sQƠ$ĖĨDƭ)D(lǩ*Eȇ-Eȇ-Eǚ/EȘ-Eǩ(ġGȘ-GǍ-GǍ/G(sǼ*Hƾ-Hȩ-I(mYƏ*ȸ-Iǫ-Iȧ-IǺ%įuGIbkDqOIJĖƠ&JǺ-KȘ(dKRAġL侁-LȺ-Lʇ-"
  , "L(lCkOɩ)Lɋ-NǍ-NǍ-NǍ(ePRECEDĪBYxGġ>Gȷ)Oʄ-Oʄ-O(kMnIȆ'qOpIƻ)Rȃ-Rȃ-Rɐ-Sƭ-Sʮ-SƼ-SƼ-Tƞ-Tƞ.ʙ-U俤-Uɠ-U(pƭ.M偏+Uɱ%Ƒ*倆-W(n"
  , "N儖+ǫ*Y(oJdZɩ-Z傱/ZȾ(dmPSdB(lKġB(lLfTOPB)ǀ)oYkYĞƎ&mVOdC(lLơ)AFRIC$ DdDǁ/dmCr0ġmX,S~W_mV,F(lLɅ+Gdr1įHVġpYdI(lKdK"
  , "ƪ(dL(mHdLAMBDAȴ(mCMdN(kHlLįN(mPkGLEGb卝'CmYfrOȰ)O偂*Pɋ*BYRɱ'Iɱ)E.bȿ$.t2įT(xYlLb!ĨT(ɉ$Ə)qMdU(ǲ+qBdV(lLĲYƖ)Z勄.ZHem"
  , "Xǹ$e(o5ğkʄ$ȕ'Qȕ&BnHrMnY(lKcWYNNcD>T< CLICKc!L;*<c!<VEOL)c!qMġDZ(sQĲD(ĴZĖĴDZġLJdL(ĴJįLJġNJdNƗ+NJġA厡/Iƍ+Oƍ+U儐-Jk"
  , "Fo3b/6Ɠ-nIƓ0sQƦ1XƓ$dmCEġAǐ*ǰ(A僵'7侚(AE(Ȇ)G˽-Gɋ/劃-w9Ə.ɀ-EZHǀ(ĲJ˫&d˥(ˣ*G冞-HWAIRdWYNNdN(nXƚ)A刚%ʗ#ɇ5!嘿(kFȍ%ɻ'Mǉ#5Ƒ)"
  , "nHp哿+Ƣ/EƢ/IƢ/IƢ/OƢ/OƢ/RƢ/RƢ/UƢ/UƢ/S(o4kVƑ$ĞĨTƞ)YOGHĖˊ'厕+刉+įD(tAġOUƴ)Z勊.嘩0司-O偫3O(mY˿)OǄ(Ƒ-Ʒ#俈+Y(勗(tAĲNĲTduGJdDB"
  , "rNd!QPȕ'lKĲCȈ)匊%T(pClKįS(SWA.o5ĻZġrMn厸*Bǆ$UmHdmCVdE(lK僯+Jǝ)kCQ(lLo5ĸĴġRƱ/Y叠'_pPd!mCdB(lLd吡&t_D(o5flLd叼(eƢ&EĲmX"
  , "gƎ$p3mXmVEɹ#ȣ$GƖ$rXGb!ȍ#kDįr1dĳSrOdm~dH华&H>G吩&pYbƯ%IįL叹&BELTfqMlLdLEZɽ#Mf(mPLEGdMǅ$!N(kHf!qMǂ&Nįx7OƐ&pIįp3pLdq"
  , "XdmCRǄ'glLdRƌ&fo5fzCĻmXƸ&Re!nHįSǬ$E.ɨ'kFlLdSQU;mXE.dE.(t_mCTdT(Ȳ#侮$吻(mCVeWeYʖ-Zƪ%ft_EZHe(tAb俺%cPH)YNGE<wVFRIC;"
  , "IV%nHƝ$STRET~ĪCcBILABI呀(ǜ#Bɰ&mVEɋ&G(lLeHįJ(y0dmCKƜ&LįQ(lLğ咛(/4mXįDZrNd!DEZHdƌ#(t_TSƕ$TE.dTCƕ&F>GƗ$LSd!LZğȞ(P*C"
  , "USSIV%!BID>T<įm~(zChkFo5ap0kBk~eʴ$JdRd!mCfƎ$kDnHRdWdYcPRIM%!kMcmCo4cxGcmXo4ckGl9mMĜkHcʨ#ĜmXckHr9c!kGc!kZc!k7c"
  , "嶉$sQǯ%9nJco3cnIp2c!nXcl1Ɣ#do3dnXp2d!n?wHqRĜl9cC>TREDǭ%dǭ$kZrPǙ%k3k%!sRapKakOkK@mMaw9akCmYakMǦ#Ƿ$RHOTIClLcp5p2c"
  , "kCr1dLdSdXdmXȼ$EXTRA-HIGHoYmHĜmNĜMIDĜl1Ĝơ%ņcY& DEP)T&GoYkRc/3v:VOICĺUNASPIR;EDckMxGɠ#7r9d!kZd!kHd!kGdmMclCɱ%2k"
  , "Me!n?l1mYcq9qRcBEG&mNoYĜpFc!Ƒ$l1Ə%.ELFc!mVǝ#HkPaoTǋ#b!nIb!nNbmYbo3bOV*L&EbpKbʟ#boJblLkKb!mMbʟ%bsQbk9nJkKĞkMcǉ$"
  , "p7b呜$mCo4kKĖĖmXbƍ#kGbƣ#kVĖǮ$kHrPĖkGbkHpǥ#rObkHl9mMkVb!kZƟ%7b!k3kEĖsRb!P<;<IZEDlLĖqMb!kOb!oJȠ%!o4bs3bw9ȡ$ǎ$BRID"
  , "GEb!nHkM)~b!sQɴ$ʀ$pKĖnHb!mYb!o3bl1nJbˤ#bmYwNb!n6lKĖmPƌ$rLƌ%kGȲ(nHǦ(mDb!SEAGULLbXkKbk9mYbkM˙(nXoYkRʋ%sSqLcKOļIS"
  , "cv;ONOScvTbǎ%kKbpXkEʔ%Mɑ#b!ʲ#bn5mYkKb!HOMO|ETICb!v4nFk1bkHkGkPˮ$lZbGRAPHEME JO&*bkGr9ƻ$˱%bF*M;AbXǧ%Hr9ĖkGd!kFk"
  , "Zr9cɥ$倍%kGbrUȏ&mMbx8Ƙ#MpKkVdco3dkVcmYcnHpKckWȂ$慁&eEeIeOeUeCeDeHeMeReTeVeXasSĨHETA嘴)s4SAMP娢&w5kEĖl0ġPAMPHYLI$ D"
  , "IGAMMAƦ%=37A=vTħmXLUN;EtPlGc/3qQ匧%qNkRġYOTb=384=˫$b!vAb!ĨpP(b$O TELEIAġqV(Ʃ$ĲrSĲpYd=38C=/2sOƊ#E=/2qBĲpLb!ĴpY(v"
  , "AkFbǔ%dsVdr1dr0dqVdu1drSdqWdpYdsTduLdo1dNUdX[sOdoNdqKd=3A3=tPdtCdqBdqXdq6dPS[pLdǛ$_ǲ#įpPȞ)qVȣ*!qBȆ%dȂRkTtPd!Ȃ>"
  , "dsOǾ'ʃ)kDKAIlGb!sVb!qWb!qB噌&nIkFĻoJb!qXb!oNb!KAIğs4KOPPA宁'STIGM倓'B俫$Ə)ƪ#ƍ(倫$ƍ$auHĨ.E屿*Fƍ+Kƛ,HORƎ*G$GIAƐ).IMƏ*D"
  , "Eǥ&sSsTɡ$qKb!偬'b偙%kDqWlGƘ(qVĞmXġ.Oǎ'傡*kBS$Ƙ%qK(lKƾ$kD僆)僄)auEĨIE(nXdIOdDJ,GJ,UKRA&I$ I,DZ,BYELORUSSI$-ƞ)[Y[J,LJ"
  , ",NJ,T.,KJ,Iǒ$n6UdDZH,_B,V,GH,D,I,ZH,Z,[!n6dlBdELdEMdoGdOdoHd*dESdT,UdEFdl_TS,sXdmRd.~_H)Dk,Y*UdSOFTk,,pNdlNįǱ,"
  , "Ǳ~dIEˀ~ġpL值)Y;ƍ)wKE娴)qDYUSĞ姵(wK屺+BIGƝ2ġKS彤+ƍ+FI卌+IZHITSƑ0峃&p2巽*Kƥ)xFpLȦ)pLk;ITL忢+ɒ(冏,y7kEaoTuEƯ#:喯(ģcmJPNEUM;#"
  , "!mLcPOKRYTI%nUy7k%!MILLIONS僫&n6I(o5岮*EMI俏$˄**k;ICʜ*GHE(UPłNƕ.lKƑ/ClLǟ)ZHE(uD宆+ZEƎ+lBǀ)lB(k9lKƿ%!Ɣ'Ƣ)BA.KIRlBȭ)"
  , "oGǡ&捬&oGGHEƟ*Hȓ/ABKHASI$lAɳ*Sȧ/TEǷ)rGUĞƍ)(lKǑ)lAȂ-TE TSȃ*sXƠ&Ɛ(ɧ*ġ.HAĖȡ/sXĞƕ/ǎ%Ƽ&BP<O~KA˭)pKˑ+帬-EL(o5ĸʼ(Ơ-oGƠ,"
  , "ǳ#KASȋ/EMƦ(dȀ'杊6oJʗ)A Iʕ*Iȫ.S~WAĖƏ*ǀ)Ėɠ&偉0ʟ/ DZEĞ暬6ǒ/OƜ)x7OĞƍ)ƫ%5ƫ(E攞9ɨ&攍7sXơ-GHE們-Y*Uƣ0嵱'b/6儍)A(ƥ)lA兿-KOMI DE"
  , "ĞƑ,Jƒ/ZJƤ0Ɠ1Lƒ0Nƒ0Sƒ0Tƒ+mXZƎ*EL偬-L僳+Rƍ+YAEƍ)Qƙ*WƘ*<EUTlBǠ.ClL慸+oG來)oH凢/.HA僼-kH利+DZZHǲ*DCƎ+ELǏ(a=531=)M>I$ĨAYBd"
  , "B>dGIMdlQdE~dn1dEHdETdk1dZH,&[LIWNdXEHdmWdK>dHOdmUdGHADd~EHdM>dY[NOWdmRdVOdm0dPEHdJƝ#lFdSEHdVEWdTǈ#qYdCOdYƋ#PI"
  , "WRdKEHdOHdrDb=559=p0kB媞&xGbEMPHASISkRb!q7bo4姏%!sKįmCɄ#!ɇJɇ~cqOE~ ƚ#ckBY晦%pRnYbv3a=58D=z6侄' ET*NITYkEĦLEFT-FAC&"
  , "G@Ƥ(Dĳa=591=HEBREWp2ETNAHT#SEGOLc.<.ELE]ZAQEF Q;$dGADOLcTIPEH#REVI#Z)Q#PA.T#YETIVcTEVIRcG*E.dMUQDAMcG*.AYIMcQ)"
  , "NEY P)#TELI.A GEDOL#PAZ*cAȊ# HAFUKHcMUNAHcMAHAPAƏ#*KH_KEFUL#D)G#QADMǋ)QET$#Y*AH B> YOM:OL%ILUYcDEH?Z&ORbkRMASO"
  , "RAl8bvK.EV#H;AF ʃ$dP;AHdQAM;ScHIRIQcTS*Eʢ&Ɵ$cƟ'OLAMdHAS*pGVAVcQUBUTScDAGE.m8MAPIQcMETEGbpSMAQAFbvKRAFEbpSPASEQ"
  , "bvKp6k:!S&bpSSOF PASUQbkRmKk:!l0bpSoFʙ%AbvKǽ% Q;$b=5D0=kBlPcBE]tQcD<E]oWcȐ#uMcHE]TE]YODckTqFc!cLAMEƎ#tDc!ckTo"
  , "Ɩ$tMcAY&Ɛ#HƘ%TSAD?!cQOFcu2cp6cTAVb=5EF=YODoUbqOYIDDI.kMVAVdVAV YODd!kMbpSG*E.倅)a=6ĢtNm7kEĩS$AHbFOOTNOTE M)K*Ƙ$"
  , "FH#SAMV;bm7kRkKawFCUBE ROOTb!FOUR|atNRAYawFP* MILLEk%!mEp9@AFGH$IatNo4bD;EqHbPOETIC V*SEȃ$MISR#S<L<LAHOU <AYHE"
  , " WASƖ$McƑ&Ɛ(RAHM;UƯ#ƭ%%RADI ǁ'$H^TAKH<LUSħmNqSdqOlP(o8(lUdt3cv9cwYcwAbu9ğkRb!pFlETEXTb!oXkOpSb!qNğKA.MIRIl^pMc"
  , "lP(MADDAkKe!pMc/3o7Ɩ$pMkVclUƉ$KclPcr6csHM)BUT_cvPcm#l2cnLcD<c|<cqYct3cqJcsFcr%s?qScZAHcpVcs8cKEHEH(kIlXkKekLlX"
  , "kVcF)SIlU(nHVfƛ%f/2kLbT;WEELğrDcq]qFco8ck6co6cqGcȧ$m4clUbzDbDAMM;$bKASR;$bv9bwYbwAb.ɠ#bSUKUNbɬ$HkKbɭ$kVbyMlPbn"
  , "HwYbkRo6GHUNNAbZW)AKAYblMkEkCVkKĻnHdkOkVbmXwYbv9Ɉ%bWAVYʫ#awFlSl4ckJck?kLckNckQckYck4ck0ck5atNP*獘%bDECIM<qHb!y7"
  , "bkQrVrQğuGr6dq]vVlPclPWASL_(Ǧ&KgkVcmNpMelPeo7c侞&Ɠ$l^TTEHƅ$EHcBEEHcsH(mM˪%KlWcPEHcƟ&Ɔ$l2ǁ%e!˺$9cNYEHcDYƜ&ƹ%cT~E"
  , "HƆ%ƞ#D<cD<Ǜ$ʒ#gkFkCqScDAH<cDƇ&Uƥ&ǽ'ekNǍ$RREHcqY(kCVeǂ&e!kCVƋ$kFkOȑ(cJƬ&Ƽ&!qJ(Ƨ'ɘ%VhkFȨ&rE(Ɉ$Veƒ&/4qSc/4pVcuGrD"
  , "crD(kOMOVEDkVf!cVEHƕ$Ǌ%cPɡ$qT(ȅ&Ƙ#cKƖ$SWA.qFcqFɹ'KcNGcqFƾ(GAFd(mMcNGOEHƏ#ȏ'cGUƑ%˓(o8ʁ%Ǩ*gkVc!o6(kOd傉$#RNOONco6"
  , "俇*cqGDOA~A.MEE侖%(kOʟ%G(lUdGO<e倜%冴) GO<co7ȣ$KIRGHIZp?!c^pNc!Ɣ&co7ȸ&KcVE冠&^lU(o5ekCVco7Ǳ&%lUɿ'dB)REEǷ%噙%ğAE労%OrE"
  , "励&Pm4e/5qTdk6l6oLdo8lPdm_ǆ#dqJbpFlEAYAHbST)Tl*UB EL HIZBǋ$wOl4d!UP癭$ RECT$GUL)duGt4lEnLǛ#VoLcl1qJcmN凴$到$^!mNdo"
  , "6bPLACElESAJDAHbEMPTYnWl1nYd!mNbwOmNnY(FILLEDnWħl1k6ğD<(nHVc/3qYaxM凷%dkJdk[kLdkNdkQdkYdk4dk0d凷$kBsFʲ$ƶ#sIƅ#8ĩS"
  , "&DHIyLdPOSTPOSIī M>ğqGǦ$aSYRIACʔ#P)A攷$bSUPR<&E)˦#ĖSUBƐ%Ɯ+qRb!ƚ)!mGbqRSKEWEDkHdkGƭ+ƙ(ǟ#BƔ.GbŁTRACībH)KLE$ OBELU"
  , "ScMETƊ&AST*ISCUSb=70F=sKkRğ<APHc!vVct5cGAM<dG).UN?D<A|cuGƉ% RI.coWco7ct3ct6cTE|Ư)YUDHdoWct7cLAMADHcMIMcoFcSEMK"
  , "A|c!k]%oHc!mXcuNcQǾ#RI.噲%WcP*SI$ BHǛ$Hȑ$DH<A|bP|AHAkKckVcqQbZQAPƏ*RBASƎ%bqQZȂ#mGd偿&bHƝ(Ƌ%-ESASAqQbESƙ(RWAHAb礠'"
  , "kObQU..AYAbRUKKAKHAbkIk9唢%Vb凴%dkVbOBLIQUEnJƏ%MUSICbB)REKHb=74D=kBSOGDI$ ZHA&dKHAPHdFE傂$r6(Ǎ#HORIZONT<LYk即(L喒(q"
  , "UlZkVjkFkIlX吚(危&nHkCVƶ#CV吠%IƸ.cD<Ɨ%yHkV吘%ƶ'cq氣%qJ叐)2pV(kIe!Ǆ&WǱ&y厘%Ǽ%Ɵ)Z噄'匸+ǻ&k6Ɨ%f午&ƾ%eȃ#fVco8(mHcqYȟ'囱'!qJƔ'"
  , "ɕ%Cʰ#qSkViʆ%c/8qJƅ#YƠ-Kc!lP(刅%kIh!kLc!囒&ƙ)i!kLikNkVco7Ɨ)kKƲ'lU匽%Ƴ.cl2ƒ'ƽ$qJƏ*KenHVcqFʥ&Ka|A$AkBHA#.AVIY$?NOON^"
  , "RA#BA#LƘ(KAAF^<IF^VAAV^MEEM^FƘ$DHA<^|A#LAAM^GƘ$GNǀ'SE>^DƏ'ZƉ'TƉ'YA#Pƍ'JƉ'~Ʃ(TA#HHA#KHA#Tǲ%ZA#.E>^SAADH^DƇ%k1cZ"
  , ":A&^GHA&^QȒ$Wȼ#bABAFILIbAABAƊ%IBIƈ$EEBEEƊ$UBUƈ$OOBOOƜ%BEƈ%YBEYƜ%BOƈ%ABOǈ$堷%ğNAAa=7C0=NKO埩>ğ#o??%^n8c:DAGBAS&N#"
  , "Ncl3clDclRcm^m0clQclFcr7cl]GB#o:lBcl?lJWOLOS:l:m2clJcl#m1clNcm2ƛ&JONAmUdm0dlFboTn6mNoYd!l1d!uYc!mPDESC>D&Gd!mN"
  , "ƞ*NAS攋(kRckM浝$ǃ#xGĖl1blGn8D>N>Ȝ#KURUN>廮$7kRbLAJ$Y<$b=7FD=D$TAƐ%DOROMEkEb!TAM$aSAM)IT$kB<AFcBI]GAM$cD<A]IYcBA#Z"
  , ">cI]TI]YUT傧$cLAB;叩(&GAA]nScF?TSAADIYcQUF古%.$cTAAFbkRnSc&-Ǯ$OCCLUSION嵏&bp0kBEP>|寅$YUTĖkR姲$mP,!dOV*LķmBd!mPƓ+ A"
  , "Ɠ'b!ǋ#n6ĖlMk,mPUd!Ǡ$Ib!ǐ#Ƽ&d偌&RNEQUDAAb=830=!pScAFSAAQc$GEDcBA^;MAA^.IYYA<AAb啍$pSMELODIC QITS#ZIQA#ƌ&AEFcł^)KA"
  , "$^SOF MA.FAA]$NAAUa=840=M$DAICkBH<Q#ABcAGcADcAHcU.>N#AZcI];]AKS#AKc<cAMc$cAS˽#APcASZcAQc)cpWcA]Dƽ'KADcpVbAF犄&O"
  , "愛%VOC偯(b!zYb=85E=pSa=860=囬%kBM<AY<AMm愈$m2dnRdn9dNNN_o_lFdq,LLL_oMa=870=tNkBlP(zEv9f!oRkGekGlClKe/2kHezEwAf!pUk"
  , "GfxF否%GƉ#fƟ#Ɠ%妍'2zEǀ#v9kFe/3ǆ'3zEƾ#wAfƝ'kHmMơ4kGpMf!kHb!峅&(OV*STRUCKeo7d哘%ğ|&lUbBASEL&Eȉ#Ėq9ğo6(nH啫'啅'!qS(kO媝'"
  , "!嵖*yHbk9o5b=890=膹$kRkKĖPIASTREƙ#8=kCmNt8<-JUZcl1t8I.MAAMeIMA<AeTA.EEL崬% WAAJIBbvVlPMOKHASSASbDOUBLĪƣ$b!l9Ɗ$lHb"
  , "噪%Ȭ$e媀$!mAȞ%宎&2rD(噸'孭'V嬒%MmHck6嬦(!lU(嚁'pMi!k:qY(t2媆&WI|&cROH&GYAl^l1lP屻)ʳ#4rE孽%nHlKcrG塜$(nHVkKcpVƩ(!qF(kOȕ(kFo"
  , "0ȉ&ɖ%k6c/4PEHc!sH(kCsHc!峎%o6c/3Ȱ+c紤&rDdqTdo6cPEHʛ$c/3Ƹ#3TTEƇ$~ƈ$屨%s8ɿ)4ǂ&q]/4mAgʧ$嚂,GRAFħ宥&ĜmNd噎'Ȋ'dt8SAHdZAHb"
  , "m6xFkO塛%!劐%!m6l8Ĝƛ#uIħl1o7cmNt8)-RUBdr,pVɄ%(wAɧ#1Ơ%|-|<A|AeAS-孏$e$-NISFeSAKTAeQIFeWAQF_憜.d憜&bDISPUTED寺(mCwYkVb"
  , "rZ惘&#zDc忢'c忢(oYkJɍ#c席&!t2cƓ$VƓ+bmVƿ3ħmNo7bv9(mMdǉ#bwA(ƿ#bkH犐%2kGƌ%Vƌ&M犪%f(脥$Ė怺$xN怼'aDEV$AG)IkEnHp7c!cn2cpDğn6#"
  , "!cmBc?mFc^mScnDRdLctY%!n6Ɵ$?tYOƏ)]lBcm3clYcnZcm:mWcm0cm^o9cm2cnRco%n]oPcn9clRcnCclQcn0clJcNNN#lDcnKcl3co#l:lN"
  , "噳'?q%LLL#nMcmRcoMcl]lA唈$p[OOEĩr#tHƓ$mBd[mFdUdmSdnDReoSdtYE演%!dm[tYOƏ)TĩoVƻ$PRI.|AM;RA ,AWbOMbSTRESSkEUD;T_$Ɖ%b"
  , "瘈(Ƽ$tYmP,U,UUEğQ#KHH#GHH#n1cDDDH#RH#o:YY#nDoSdpJƼ$nDLepJbt1b!kMb垽?sKkEĩmNSPAC&GkOğtY#p?OO%AWcU%UU%M)W)In]rJck8"
  , "lNcGG#JJA硇$ȕ##BBAaB>G<I $JIĩp7倐&=985=kBA倐3=98F=%m?=993=O倆_=9AA=倆4=9B2=lIƈ#6=倂+=9BC=俼?=9C7=,mIƊ#B=O俲'ğKH$DAlRb="
  , "9D7=mTv5kƌ$C=kBr7cRH#=9DF=侰6=9E6=奪AlF(lCpCe!l0bRUPEEkRckEb袰' NUM*;OR徤,JLESS |$pAD>OM&;ORcƌ*wPbIS.)bG$DAkRğVEDI"
  , "Cn2倦%S$DHIkRa=A01=GURMUKHIkEADAK B&D?!俪$A0俪2=A0F=o?m?=A13=n8俦`A2俦7A32=l?qEƋ#5=凮$Ƌ#8=修&A3修$Ɗ$E=俰0=A47=o[mIƋ#B=n"
  , "8俫'c=A51=UDA;b=A59=kB冝,r7Ƣ#E=oOb=A6俔ATIPPIbADDAKbIRIbURAbEK ONK)ĩYAKA.侁$a=A8˸#J);I党+A党8blMtYEƢ#F=!kBcmIƓ$ȝ#93"
  , "Ɠ$來aA來8B來)B5=却.=ABC=卮C=AC7=卮(Ə#B=卮*=AD0=OMb=AE0=kB兝3AE6=匊D!RUPEʱ#F9=kBrJĩ嘸$c.ADD#杒%c|REE-DOTrAkKĜl8ĜTWO-CIRCŇ="
  , "B01=ORIYA侨+B0匂9B0匂'B1匂cB儜8B儜)B3侖1B3匈BB4匈'B4匈*c=B55=筧(mIv5kRĖmTb=B5匋+B5匋9B儷A劫&ğm1b賟-ckJy8dsDckLSIXTE>|Sa=B82=TA"
  , "MILkE侎'8劦3B8E=%动&B92=:努'Ɛ#9=m:mWƋ#C=mUƈ#E=侎%=BA3=n9clƋ$8=嚎)Ɛ#E=嚊E=BB劐3BC6=,oI˴%CA=Odn8儃)B儃&B呼*BEˇAm7m%kJnUdp9b"
  , "DAYkEb!ń|b!YE)b!DEBITb!CREDƉ$ASkK優(!m7a=CĢTELUGUkEoTp7kKc僷'coTn2kKb價7C0˱*C12=:君bC僿.˽FC僽CC4侌*C4侌/C55=僸'IƏ#8=kBp"
  , "ZcDZ#RRR#=C5D=NAKA)A POLL^=C60=儌3C儌B=C77=kEyWbsBƬ#pGODD POW*SlEkNd/5kJƅ#Iƅ#LĻkJpGEV>ƕ)ĩTUUMUaK$NADAkE堑&姓*cyW俆9"
  , "8俆+9俆gA俆?=C呙2CB俆CC俆+C俆0D俆-DD=kB侵-o:=CE侸6E侸CF1=kEy3cy4a=DĢ怌(kEoTn2兆*垍)c侁5D兇+D兇<孎~#TTTAĩk9mHoVc!CIRCUL)侐<D兖+D兖.ğ"
  , "kOREPHĩP)Ab=D54=kB~ILLU MdYdLLLb勻%向$ONE-HUNDRED-$D-SIXTIE|dFORƉ$ckLEIGHƌ$SckJTW>Ƣ%T>Ɵ$TW>Ɵ(FIF|ğs4mF咶4D6卯M咷CbD"
  , ";EkRbɩ(NNdNdoSdLdpJdKa=D81=S&H<噩%$USV)AY#VIS)GAYʬ#哪%Y$N#Aƈ'Eƈ'Ɖ&IƇ&ƈ&UƇ&UƗ&RƉ(Ɠ(LƉ(Ɠ'EƇ&ǜ'ǌ&OƇ&OƗ&Ʈ&=D9A=wIKȒ&"
  , "!wGcwIGƏ+K$TAJA NAASIKYAY#S$YAKA ƨ'wICǁ-JƏ+TA<Uǁ+_S$YOOGƔ$Kǖ/Jǖ(TTǗ-DDƐ+MUURDHț$Ɨ$ǂ)DDǃ(ǂ.ǁ,Dɚ(ʍ'B3=Ǆ'ǃ)Pǃ-BȄ,"
  , "Aː&MBA ƚ'Yƈ&Rǘ)D=ǭ'Lƕ(C0=Vƍ%ʣ(Sǜ(ɝ'#!ƻ%#Hƞ%ɹ&Ǎ+Fƈ%b=DCA=kE<-LAKUƑ%F囌$AELA-PILL_KETTI AEDƑ'!DIGƘ'ISƖ3PAƭ'=DD6="
  , "Ɯ$ƌ$8=GAETTǜ(OMBUVƽ&Ə& DEKƚ( HAA ȍ)fƩ%fGAY$UKITT_!b=DE6=LI|滬>b=DF2ɠ$ǆ# ȋ+eǓ*bpSKUNDD<IYAa=E01=|AItWKO KA?KHO K"
  , "HA[KHU;dKHWƌ$ONdRAKH$GcNGO NG^~O ~$d~&GdCƝ$SO SOƛ&O%YO YĺDƫ$D#k1P;AKc|O |$dN$Gń|OdPHU|A:o0N>cDOʭ#ck1TAOƯ&Ńd|AH"
  , "$d|ķƪ#^BO BAIMA?PO PL#PHO PHŃcFOoOƏ&$cFO F$Ɛ$SAMPHA:MOlOȥ$AKcRO RU#R^LO LĺL^WO WA>ɘ$<_RUS[SU#HO HIPƫ#~UL#O $G"
  , "Ɩ#NOKHUKcP剮%O?S)A #MAI H$-AK;Ɣ$mBdAM呻&,UEE咂$cPH&|Ub=E3F=彉'lGBAHTbtWǍ$,A,Odmɵ#MU$eƈ#<A?LAKKH$GYA:MȂ#MOKƉ#TAIKHU"
  , "Ȅ$EKd|OdTR[~;TAW#|$|AKHA]NIKHAHI]YAMAKK$cFķM$憾@tW$GKH$KH^KHOMUTa=E81=LAOkBK:K˺#Ńd=E84=TAMc=E86=P<InZcNG:C:P<Im"
  , "0˱#ơ&Cơ$o9cNYƞ%梕%o,nTdoPdn9cD:k1cTǟ'ƹ#Ǖ$0co0cB:P:PƝ&cFǙ%!PH:Fƕ&Ǣ$#M:YO俿%Ȧ$A5=LOO]=EA7=W:S$SKRITmRdoMcSƽ&!Hș%q%"
  , ":HǠ$bELLIPSIS喖$_˺#K$d俵*YdYY俳$ĩP<I掫&ƪ$ONbSEMIVOWELkELOdNYOb=EC0=ƣ#,E[OdAYdmIƖ#6=KOlƊ$8=oY俥+[C;AWAbz7kRbNIGGAHIT"
  , "Ab=ED0堒AEDC=HOo0cMOğKHMU Gȋ$a=FĢTIBET$s2OMbkRGT* YIG MGO TRUNC;ĪAf-UM RNAM BCADlOg!GT*wZc!l6Ʊ'MDUNc!CLOS&Gǈ(SG"
  , "ABc!C)ETƕ(PHUR .ADĜƔ&wZcSBRULƗ%BSKUȌ(ĜBKA- .OGc&T*SYLLABICwZcDELIMIȏ$BST)cǗ$!NYISc!wZĜƌ&R& ~> SPŃƒ$GYA GĳcȠ%-D"
  , "ZUD RTAGS MEmPC$cɫ%bLOGOTYPEkE~AƤ&d!LHAGb!ASTROLOGIC<kESGRA GC$ -~)d-KHYUDlDdSDķ T.UGSbk*DEL DK) GCIGeGȨ#eGSUM"
  , "dNAGƔ*dƤ$Ʈ$NAG准?cl9呤9dl4bkRBSDUSɄ%cNGAS BZŃ NYI ZLAʍ2BZHI MIG C$Ʋ+SGORǈ&sXMG:pZ-PHR^GUGƻ&GYONeGYASc$G KH$GƔ)ĩY"
  , ") T.ESc!M)ğ婢7=F49=婤?婟/pZct9cDZ#DZH#m1crJcn1c-A婺&lI婬,#KSS#FIXED-FORMlFcKK#r7b=F71=婰6eLepJd,o[Odn8bk*JES SUmOR:"
  , "儽(bƿ$XIemFĩ˰%堸$lQcSNA LD$bkRH<$T#P<UTAĩLCI˧&!v:LCEpZC$c!M~^GRU C$ RGY&GSd!MEDcnHM~ƙ$b!y9kEƷ$dƴ%ĲnHc˭#dm3dlYdnZ"
  , "dmOdmWdm0dmUd=F99=厨0dlRdnCdlQdn0dlJdlDdnKdl3do_lOdpZdt9dDZ_DZH_m1drJdn1d-_lNdlFdl[卺$dlTdl__KSS_˭)m1elNelFb=FBE"
  , "=KU RUm3e偾+bC$TILLģkEk8BE;d!l7dC$G TE-UdSBUB -~<blGDRIL B^RDO RJ%PADMA GD$Ɠ' 刈)PHURlDcNOR BUeNYIS -KHYILe!GSUM"
  , "e!Ȏ#b=FCE=kE冔' 凋(eƦ#兣$劳' GI MGOǥ#$c/3MNYAM YIGcǟ#wZcl6BRDA RNYı卐+lO卒*ƥ'卞/az6SVASTIkEĕ艮*ƙ*(lXĤƝ+叼&kRLEADıM~$偦'2"
  , "TRAIL&G" ]

end CommandLine.Text
