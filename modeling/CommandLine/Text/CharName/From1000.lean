/-!
# Names of characters from 1000 to 1FFF

The names in order of the code points, in the written form of `CharName`.
-/

namespace CommandLine.Text

def namesFrom1000 : List String :=
  [ "Ē0ĢMY$M)kBlBcm3clYcnZcm:mWcm0cm^o9cm2cNNY#nRco%n]oPcn9clRcnCclQcn0clJclDcnKcl3co#l:lNclFcl?m1cl]l#q%#!.$c?mFc^"
  , "mSc%!ńc:mTblMkET<LmBd!d[mFdUdmSd,m[ńmFeOdEkKĩn2ckOkVcpDcoVcAS;brFkEm9lNelFem1elAğGRE;lTblSl4ckJck?kLckNckQckYc"
  , "k4ck0ck5ĩqDsNc!blGLOC;IV%COMPLETEDcAFOREM>īEDcG>IƢ#ğmRcoMcnDRdoSdLdpJɅ$nDReoSeLepJğńmOdo9dBB_BBEȪ$ńm9lJflOflIğ"
  , "SGAW K)>mRǄ$Ƒ) EUboYkRƒ*HA|IfKE PHOğWEST*N PWOơ%nCfPWAǈ$Ɯ*Ǐ(gUEbƚ3TONE-1+4ğEAǓ/9fYWAfGHǘ&GEBAƷ&[KAYAHpIeUeoIğ."
  , "$lBdm3dlYdmWdn1dm2dlQdlJdnKdoOdl3dnCdlAʌ$.$m9m1blMƍ&BeEfkKekTYbƒ%x9dȝ$3Ƈ%5Ƈ%6dCOUNCILx9eƟ%eEMPH;ICoYğRUMAI P<A"
  , "ŃoOĩƒ, ǌ%b.$lSl4dkJdk[kLdkNdkQdkYdk4dk0dk5ĩKHAMTIʤ&Ȏ&Ȳ$AITON AemIblG.$kJdq7aGEORGI$Ĩ$dB$dG$dDONdoGdV&dZ>dT$dnS"
  , "dK$dLASdr8dN)dpBdP)dZH)dRA,S$dT)dUNdPH)dKH)dGH$dQ)dp6d~&dC$dJILdCILd~)dX$dJH$dHA,oWdHI,W,H)dHO,=10C7=YNƉ$D=A>Ġ"
  , "0D0=kB$cB$cG$cDONcoGcV&cZ>cT$cnScK$cLAScr8cN)cpBcP)cZH)cRA%S$cT)cUNcPH)cKH)cGH$cQ)cp6c~&cC$cJILcCILc~)cX$cJH$c"
  , "HA%oWcHI%W%H)cHO%F?YNcELIF?mCG$cpVbP)AGRAPHqHap0kB˸' N)侅)BA>cH)Dk%!LABI<awU~OSEķy#SS$GKIYEOKcNIEUNcyBƕ%TIKEU]R"
  , "IEULcMIEUMcPIEUPƞ%Ƌ&IOSƐ%Ɗ$IEŃcCIEUCƖ%Ƌ%xZcx0cx1cx2ɜ#UHǪ%-Ƿ%ƪ%Ǽ$Ƙ&Ǻ%ƍ&ǩ%Ɠ%Ʋ&Ȕ%-Ƴ$ƾ%ȥ$Ɨ&Ǣ%KAPYEOUNȿ*ǋ%ƚ(ɓ*ǘ&ƍ%"
  , "ǘ%ƌ%ȋ&ƍ&ɤ#Ƌ*ƶ&ƒ*Ư1Ǵ%Ƒ&ʩ$ǅ/ʣ$Ƒ&Cƌ+Ɉ#~Ȉ'Ǝ#TƎ'PHƇ#ɥ)ə-侠*ȧ*ƌ$ʴ&Ȭ*ƌ%ʦ$Ƌ%ʗ%ȼ)Ƌ*Ǌ+ɍ)Ə%俻%ɒ)Ƌ$Ʌ'Ȉ&ƍ#Kƍ%ɑ&ƍ%ɐ&ƍ%俀&~ITUEU"
  , "MǢ#ƍ(Ǵ)CEķ~Ȭ#Ɛ/˦*$傗)Ƚ&ƍ%ɽ&ƍ%ɳ%ƌ%ɴ%ƌ&ƽ*P$僬)ɬ$ƙ%ɭ%ƌ%ɮ'ǣ%ɢ&Ǝ&ɣ(YES儦*ʷ%ɠ(Ǎ$ɮ-Ɠ$ɟ+Ƒ-Ƨ-ȁ&˪'Ɛ'˓.ȧ&Ǖ(Ɠ*Ȧ&優.ȼ&ɽ%ǌ%YEOR&"
  , "ƌ%˙%冶,ʻ$Ƌ%ʢ%ƌ%ȉ&ƪ%偵&yCb!JŃSEķc#A%lNcYA%E:%YE:Y%:m1cWA%p?Y:^WE:W%W?pNcE^Y??A-:A-^YA-Oƅ#Y:EO-ƅ$Uƅ#E^YƑ#Ɔ$^O-E:O-"
  , "%O-Y%O-:O-^YO-YAƆ%EƇ#Ȃ$O-ƅ$?U-AƄ#%U-Ǒ%U-Y%U-^YU-#YƗ#Ɔ#%YUƻ%ơ$YƢ&?EU-Uƅ#ȴ$-^I-#I-Y#I-:Ƒ%E^I-)AE#Ɔ$Ɔ%-EOƉ&Uƈ&I侓%"
  , "Ƥ&-Eɹ$ɣ%Y#ƅ$Ɇ$bJķ史3Ƈ%侮*侴8yB吊&z8Ɖ%儶%ƌ%倰%ƌ%Ǎ$Ƌ%儃'ƥ%儃'厧+员+卥*员5呍6Ʌ'ȟ$ɒ+-哗+ƍ,催8P$Ǝ)ȿ'命-Ǝ'味+ˇ*咜+ʆ%ǭ&ƍ,ɾ%咼*˔+ǩ&Ɠ+Ǜ$ˬ+"
  , "Ƒ0ǒ$˜'吘,Ɣ&ˎ$ƶ+$Ǝ)刲&ǀ'凞+ȓ+ƍ&啔1ȥ)Ƌ%Ǯ)Ƨ'$Ǝ)匩&ǜ&Ⱥ%喗3ǩ%哴-Ǝ%ƴ.哭0哢;ȳ%吝;儢*叱0ʪ&叉)Ɖ(ɿ$Ǝ(ɲ'卓>Ɉ$倮%ƌ%ȩ%ƌ&ʌ$ƌ$ǀ&卸2ƽ%ƍ&Ǧ%ƍ&˧&"
  , "Ʃ'Ⱥ&Ə'˃%坽*aE|IOPICs2l#H^H?HA#HE墕%:HO#l?L^L?LA#LE%L%L:LW#HH#HH^HH?Hƺ$HE%HH%HH:HHW#l:o1cM?MA#ME%M%M:MW#SZ#SZ^SZI"
  , "ƌ##SZE%SZ%SZ:SZW#lFcR^R?RA#RE%R%R:RW#l]S^S?SA#SE%S%S:SW#mRc.^.?.A#.E%pHc.:.W#Q#Q^Q?QA#QE%Q%Q:QO#QW#=124A=QWIƎ#"
  , "#QWEEƅ#Ƙ#50=QH#QH^QH?QHA#QHE%QH%QHOƤ$8=QHǇ%5AƋ#?QHWƩ$Wƪ$ǋ%60=l3cB^B?BA#BE%B%B:BW#nMcV^V?VA#VE%V%V:VW#lRcT^T?TA"
  , "#TE%T%k1cTW#mWcC^C?CA#CE%C%C:CW#X#X^X?XA#XE%X%X:XO#Xȭ%8A=XWIƎ##XWE%Xȩ%90=lJcN^N?NA#NE%N%o0cNWA強$Y^NY?NYA#NYE%N"
  , "Y%NY:NYW#rM_Ud[mBdo[,Odm1clBcK^K?KA#KE%K%K:KO#Kȏ%B2=KWIƎ##KWE%Kȏ%B8=KX#KX^KX?KXA#KXE%KX%KXOƤ#C0=Kɖ&C2Ƌ#?KXWƩ$"
  , "Ǌ$ɚ&C8=m1cW^W?WA#WE%W%W:WO#PH)YNGE< Ɂ-ǣ$D8=n1cZ^Z?ZA#ZE%Z%Z:ZW#rJcZH^ZH?ZHA#ZHE%ZH%ZH:ZHW#lNcpNcY?YA#YE%Y%Y:YO"
  , "#lQcD^D?DA#DE%D%D:DW#n]DD^DD?Dƞ$Ɵ$D%DD:DDW#m^J^J?JA#JE%J%J:JW#lYcG^G?GA#GE%G%G:GO#Gʭ$312=GWIƎ##GWEEƅ#Ƙ$8=GG#GG"
  , "^GG?Gǁ$ǂ$G%GG:GƳ$nCc|^|?|A#|E%p#|:|W#m0c~^q6c~A#~E%sXc~:~W#nKcPH^qX˽##PHE%PH%PH:PHW#pZcTS^TS?TSA#TSE%TS%TS:TSW"
  , "#TZ#TZ^TZIƌ##TZE%TZ%TZOƄ##o:F^F?FA#FE%F%F:FW#lDcP^oNcPA#PE%oHcP:PW#RY#MY#FYAĠ35D=oTzYkFlMv5kRc/3c!zYb!sNbWORDS"
  , "PACEbpRnYbo4bu9bqRb!PREFƘ#qNkR巓+blS憸:m7m%oKcrHcs^pQcs9cs5ctZcs%n^mEp9Ġ3Ĺs2SEB;BEIT MW#MW?MWE%MW%ƛ)BW#BW?BWE%B"
  , "ƛ,FW#FW?FWE%Fƛ,PW#PW?PWEEƅ#bTON<kRYIZETdD*ETdRIKRIKd!n6dDIF;dK>;d~IƟ#HIDƫ'-ƌ%KURTĒ3A0=~*OKEEkB#%?:^VclYclBcG%G"
  , "?G:G^GVclA弹$?H:H^HVcl?L%L?L:L^LVcl:M%M?M:o1clJcHN#NAHcN%NI勃$^NVcQU#QU%QU?QU:QU^QUVcl]ScS%S?S:S^SVclQclRcD%T%D?"
  , "T?D:D^DVcDL#TL#TL%TL?TL:TL^TLV傺%E傺&O僆&Vcm1嫔&W:W^WV嬋$%Y?YO刢$VcMVĠ3F8=ĴY,Y[YOdpNdYVdMVĒ4ĢC$ADI$ SYLLABICSv3c%AAI"
  , "撇%:n8c!vFcv0o[?#mBcW%!l5cWIƈ'Ɖ'Oƈ'Ɖ&!wQcm1Ɩ&AAƖ+?vFWcrMnYckTn[nXdpUl9mMĲoRĲkGd!dkMnIen6k9STROKESdlCkOdn6mGlKdk"
  , "3dk7rPcoGcnScpBc$兽$AAI冐$I?P:POOɅ'HE,H?lD冬%Ɋ'PWIƉ(Ɗ(OƉ(Ɗ(AƉ&ɋ'Ǘ%Pƌ$Ǟ#cT%TAA?T?TII啢$ǽ)DE,D?lR喅%ǽ'Tǽ'Tǽ(kƒ'Ǽ(TǼ'T"
  , "ˇ-]TT%TT?TT:nRcK%KAA?K?KI?K:KȂ'lB唹%ǹ'KWIƉ(Ɗ(OƉ(Ɗ'Ǻ'KǺ-KcKWcSOU|-SLAVEY KEHdKIHdKOHdKAHcC%CAA?C?CI?C:Cȋ'mW噮%ȋ'C"
  , "WIƉ(Ɗ(OƉ(Ɗ'ȋ'Cȋ-CcxA|cM%MAA?M?MI?M:Mɻ(O塌%ǰ'MWIƉ(Ɗ(OƉ(Ɗ'ǰ'Mǰ-MƖ&HcA|APASC$ Mc!x#N%NAA?N?NI刮%ȅ(J國%ȅ'Nǟ'Nǟ-Ncv0NG"
  , "cNHcL%LAA?L?LI?L:LǍ(奜&Ǎ'LWIƉ(Ɗ(OƉ(Ɗ(AƉ(Ɗ'Ǻ'm9cS%SAA?S?SI?S:Sǰ(T夵%ǰ'SWIƉ(Ɗ(OƉ(Ɗ'ǰ'Sɣ-Sc!ʼ)cSWcBLACKFOOT ScMOOSE"
  , "-CREE SKcwQSKWdS-WdSPW_STW_SKW_SCWA妣%?.I?.:.O:mR姅'ȯ'.WIƊ)Ƌ)OƊ)Ƌ)AƊ)Ƌ(cY%YAA?Y?YI?Y:Yʜ(N垑%ǭ'YWIƉ(Ɗ(OƉ(Ɗ'Ǩ'Yʜ-Yc"
  , "!BIBLʂ$ǒ&xAY?R%!RƖ%l5L%RAA?R?RI?R:ROOƘ#O嬂$A#l5l?Rǝ(R俩*F%FAA?F?FI?F:FO:oO回%Ƴ(Fcp#!NǴ%|Iƍ,Ǝ,:|O:nC埆&ʼ)|cT|%T|?T|"
  , ":o%T|cTY%TY?TY:TY#NUNAVIKoWdH[HI[HOdHOOdl_HA_Hc!ƣ$U]HKcQAA?Q?QII守%:QA宝%cTLHEƅ#Iƅ#Oƅ##l5R,R[ROdlFcNGAA?NGIƄ#?NG"
  , "OƄ#:mOƛ##NGcNNGcxApHd.[.OdmRcWOODSɳ$p_|[|OdnCd|cLHIƄ#?LHOƄ#:LHAƄ##LHc|ƶ-Iƻ%|Oǀ&A_|cAIVILIK B儐*,[Od_W,W[WOdm1dN"
  , ",N[o0dlJdK,K[KOdlBcxAʾ&Odl#v0GHUdGHOdGHEƄ#,GH[nZdRUʈ#R,RE,R[lFdWUdWOǥ$E,WIǦ#HWUdHWOdHWEƄ#,HW[HW_|Uȿ$p_|E,|IɆ$T"
  , "UdTTOdTTEƄ#,TT[nRdPUdPOdoHdPE,oNdlDdPdGUdGOdG,GE,G[lYdKHUdKHOdKHEƄ#,KH[m3dKKUdKKOdKKEƄ#,KK[KK_KKdNUdo0ʐ$E,NIʑ#"
  , "o1dMOdM,ME,M[l囸%OdY,YE,Y[lNdJ^!x#v0JOdJ,JE,JIƔ'mUdJJUdJƜ#J,Jƞ$J[JJ_LUdLOdL,LE,L[l[DLUdDLOdDLEƄ#,DL[DL_LHUdLHOd"
  , "LHEƄ#,LH[LH_TLHUƅ#Oƅ#Eƅ$Ɔ$[TƟ%ƞ#Ɲ#,TLƛ$[TL_ZUdZOdZ,ZE,Z[n1dZd!l6dDZUdDZOdDZEƄ#,DZ[DZ_SUdSOdS,SE,S[lTd.Ud.OdpHd"
  , ".E,.[mRd.dTSUdTSOdTSEƄ#,TS[pZd~Ud~OdsXd~E,q6dm0dTƯ$ư$Ʊ$Ʋ%TSIƅ##q6k%pRnYcQA?NGA?NNGIƅ$Ɔ$Oƅ$Ɔ$Aƅ$A兣* |WE,|WIƅ$[|"
  , "WOƅ$Ɔ$Aƅ$_kT|儰*WaOGHAMvJkRğBEI|cLUIScFE)NcSAILcNIONcUA|cDAIRcT&N%COLLcCEIR]MU&cGOR]NGEAD<cSTRAIFcRǉ#AILMcONNcĥ"
  , "EADHADHcIOƈ%EABƈ$m8cUILLE$NcIF&cEAMH$~ǥ#PEI|bFEA|*kRĖmXĒ6A0=RUNICkBFEHU FEOH FE FcVcURUZ UR ^YRcYcWc|URISAZ |U"
  , "RS |ORNcE|c$SUZ #OS :AC #AESCcLķ-BR$~-OSS :!.ORT-TWIGƓ#c!cp?pBcRAIDO RAD REID RcKAUN#C>Ɗ$ KcGc>GcGEBO GYFU Gcq"
  , "ZcWUNJO WYNN WcHAGLAZ Hc!HAEGLc!ȃ+HAG<LȄ,Ɣ'NAUDIZ NYD Ƌ# NƦ-Ɣ#cDOTTED-Ncʃ$IS ISS ?%J*$ JcG*ɳ,) A%Ǉ*) #IWAZ EOH"
  , "cP*|O PEOR| Pc<GIƚ#LHXcSOWILO Sc!SIGEL ǘ+SOɅ-Ƒ$CcZcTǜ$TIR TYR Tƥ-TYRcDcB*K$$ BEORC BJ)K$ BƬ-Ɨ&ɳ'PcOP>-PcEHȽ$H "
  , "%M$NAZr8M˥.MADRǍ,ƒ%LAUKAZ LAGU LOGR Lǝ'Lc&GWAZcĺDAGAZ DAEG DcO|<$ E|EL :E)cIORcCWʳ$cC<CcCE<CcST$˼,YR˹*Ǝ#ICEL$D"
  , "ICƍ#QcXbm5pSb!vYb!p5b)LAUGlGb!TVIMADURb!BELG|ORğKc.cn8cFR$KS CASKET OSeISeEHeACeAESCĒ7ĢTAG<OGkB#?^lBclYcm:lRcl"
  , "Q玠&l3玚3燎%[UĩoVcPAMUDPODĠ71F=kBs4lFaH$UNOOǟ^ǜ'aPHILIPP&Eʕ&kMĒ740=BUHIDǧ[Ē76ʐ$B$WAǋEƴ#E=ǎ'Ġ772=Ǒ*ĹKHME用(K:KH:NG"
  , "甪'C:~:NYOǞ#o%D:T|:NNO甪&k1c|:o0cl3懐$:PH:M:Y:R:L:V姖%SOɓ$#l?QAbzVlMQAQdQA_Q[QI[QUdQUKdQUUƄ#VdRYdRYYdLYdLYYdQ,QA[Q"
  , "OO TYPEkJfk[QAUblM&H*>T AQdmBc!kE畨%YdYY畭%U_p[lNdI,,A,m[n8dmTbk>IKAHI]REAHMUKcYUUK<EAP&T^MUUSIK;O$cTRIISAPcB$TO"
  , "CcROBA]TO$DAKHIA]KAKABA]AHSD#SAMYOK S$NY#VIRIAMcCO>GcBA|AMASA]KH$cB)IYOOS$cCAMNUC PII KUUHcLEK TO:BEYY<cPHNAEK"
  , " MU$cKOOMUUTbCURR>CYlGRIELĩAVAKRAHAS$Y#;|AC$Ġ7E0=瘷>Ġ7F0=lGǹ#;TAK SONeMUOYePIIeBEIeBUONePĳƅ$-Ɯ#Ɗ%PIIƉ%BEƉ&ƫ#Ē8Ģ"
  , "MķOLI$ BIRGAbELLIPSISbo4挺%qRbkNlXbTODO SOFTv3bSIBEs2BOUND)Y M)K*bM$~Uo4cƸ$NIRUGUbFREE V)Iģ SELECTORkJekIekLblM"
  , "qHƥ8NbʘA820=抭+p?U%o?lJc$G养$DcQA拄$:l?l]mR冟%硼%凤&m1co:典%pZcn1cHA#ZR#LH#ZH?q6cʇ#mPlMk,,[OdUdp[U,$Gdl3dlDdQ_lYdlOdl"
  , "RdlQdm0dmUdpZdlNdm1dlBdGA_HA_JI_NI_DZ#˓# ,[IYdU,Uǐ%BǊ$Aǖ#mRǐ'UdoOǄ'ǘ#n1dRAAǨ#rJcM$~U IƼ$FdoOƕ#m0(kIlXc=18Ĺ<I G"
  , "<In2kJe!pDeDAM)UeUBAƊ#e!nHeB<UDAe!kLeAeIelBemOemWenReoEenTen9elRelQelDenKeoMerJen1eAHʧ$ Ǩ'lRfȚ)ǽ(ZfmOfmWfo9fnR"
  , "foPflRfn0foMfCYAfrJfn1cǂ(9UflNǃ/oAơ( DAG<GAƣ/ LHAĒ8B掟3 OYcAYcAAYcWAYcPOYcPƈ#WOYcTAYcKƄ#ƚ#MAYcNOYcNAYcLAYcSOYcS"
  , "AYc.OYc.Ɗ$Ƶ#YƄ#AYcRư#W?!OJIBWƎ%Ə-OƎ-Ə+RWE%RWIƄ#?RWOƄ#:RW#ƣ& PdTdKdCdMdNdSd.c祅'Wc!祮&ckTkCmMdq9k:R娄%RWE廕$OdLA#|W"
  , "%|W#TƋ%|O:T|A#TLƒ$LHO:xA.W,.OOdHO:v0GWUdD>E GE,GA_GW#xAJU^v0JW#BEAV* Ƥ$LeRcv0D>T< SĒ9ĢLIMBU VOWEL-C)RI*kBb簟<Y$"
  , "簌J笰$哟&GY$cTRAĠ920啰$_[UdoI呵(d,Oby9kBlNdlFdm1Ġ930=ĴlBdmOdn2冂$JdlDdlOƥ#lIĩMUKPHR>GcKEMƊ&SA-?=1940=LOObƊ#4=q7kRb!q"
  , "勖@aTAI LEǸ$X_mO刾$TdȚ#R竎$IȄ#nKȇ#oOdnMdl_Q_m3dt9Ȣ#_[o[EHdUɞ#OdU,,AU,m[=1970=x9+4Ē9ĹNEW ǳ$UEkBmNQAe!l1emNlBfXAfmO"
  , "el1Ƌ(mNpZflTflNel1Ƌ'Ƭ#RfnCflJel1Ƌ'Ɩ#DfnKflǂ#Ƌ(mNoOfnMflIel1Ƌ'Ƭ#AflQfl3el1Ƌ(mNKVAfXVAel1Ɗ'mNSUȣ%ɋ#B俐%lM.ORT>*fm"
  , "BfmFfUfmSfEfAEfOfOAfUEfAYfAAYfUYfOYfOƊ#EYfIYdkBkTVfNGfNfMfKfDfBdoYM)K-1eƇ$2ǩ#D喦%e咻'ekNekQekYek4ek0ek5d|AMlSkJ"
  , "Ư$E=kELAEeLAEVaKHM*lGP噣)MUOY KOE]!PI?!BE?!BUONc!Pĳc!嗋(ƌ'ƫ%嗏&Ƌ(Ƶ&DAPƆ%Ƴ$Ƌ%Ʋ#Ɗ&BEƊ&ư*-ǩ$TUTEYȗ)ROCȖCȖ~aBUG&ESEkB"
  , "奕(NGKA契)MPA奧)NRA刯$U漑%CA刏)nMcl]A妽*d,OdAEĠA1E=P<LAWAbpFlEsN兿$|AMkBmNlBem3eKX_l1lBƉ#em3dmOdmNmWem0dl1mWelTƋ#m2dR;"
  , "_mNRA|A纇$1Ƌ%R$_mNlRenCdl1ƈ&Jdl3dmN唿&Oƙ#DeoOenKdlƎ$Nd!m劐$RU,l[LU,m1ǽ#ReoMǸ#l_q,ȟ$A胊*o[n8dLA,肚%]肶&F典$IT$G LA?!kE"
  , "MAI K$GƤ$kTmOeȊ$/2Ɋ&m8elOel3el]=1A60=kESAKO]ˏ#Aeǀ#S;emBe!T<LeIemFeUEeUƄ#emSeOeOAkVeOYeEeAEen8emIe!|AMƚ#KcȆ)d绹&"
  , "x9dKHU耭'3+2dlFHAAMdǯ%Mƞ%-LUE K)$ț#7F=oTzRk:HORA冰>Ʊ#90=|AMƪBAɶ#WI$GdƆ$WAAKdSAW$dKEOWdHOYdDOKMA[mXsCR$AȪ$YAMOKdK"
  , "A$ƅ$KUUdS;Ɛ$S;Ɠ'H$GdCA$GĒAB0=oTDOUBLEDnNp2bDIA*ESIS-R&Gb&F&ITYblWkPboXkObX-XkVb!WIGGLYnJb!mVkRĞkMb!l7C>TR<IZģl"
  , "KĞSTRķbP)>|ESESkKĖkMƓ,VcwNbnPĴWkVe/2mCbkHq8kKkHbkGƉ$Gƒ%Vƒ'VkGbmDBRACKETǖ#!m7kEb!nHkM)~b!k3kEȠ$ekVboXnIp2Ǩ&wRGf"
  , "RfTĒBĢB<刈%EULU RICEMdtYcCECEKcSUR$GcBISAHğAK)_v6cIƉ'UƉ'lFREPAeƊ#IL>GƋ$EK)#AIK)#Oƫ(BdxJclYdGORA嚈%dLAC#mUdJ*#m2c"
  , "lRL;IKdwBƫ#QwB<PAPR$AeƑ#JĳBA]lRdTAW#lQdMADU嚶%dKAP<cl3dKEMB$G幪1SAG_SAP_clAbk**EK$勁$v6dULUeS)[SUKUeILUTdɠ%fv6dɠ%"
  , "Ƌ$T<&Geɺ&e!REP_PEPETev6bADEG ƅ#ğqFSASAKc!KHO]!TZIRc!EFc!V%!Z<c!ASYUR#s4JNYAĠB5峀AP$TIbPAMADAbW&DUbC)IK PAMŃKAHc"
  , "SIK?P)*>ƪ#>>GbvElGDķdDEƅ#Uƅ#$Ge俷%dDIƑ$Eơ$Ɲ%Iƣ& GED,oTTEGEHe>DEPeKEMPULƇ$LIeJEGOG$e!Ƙ%(e/2Ɯ&B>DEeGķdRIGHT-H$DmV"
  , "DUGfDAGep3TUKfTAKdLEFƝ'P$GfPUNƟ#PLAKfPLUKemVP&Gʂ% L$T$Gb!ʌ%ĒBĹSUNDA僣%P$Y僙$P$GLAY)Ɗ$WISADb恥'A%:%E^lB峜%夭'^n1cm2"
  , "恾,o:nM惏5X#蔛&PAM&GK<dP$YAKRAƉ$IKUblMȗ$GHULUƕ$UKƈ$AEL˺$P$OLOƉ$MEPETdP$EULEŃbǙ$AAEHcoVǨ&S$G$lOem1ğm3cSYA巩@tHğRE^L"
  , "E^o#kTKdMaB;AKkB#!vWclƈ&!M$DAILI帀%!K):lDƧ&JƢ-m1Ʒ'PAKPAKclYƑ%mU˄$FƷ&:!v澦&*NlRc!NOR|*NclTǼ3Nǉ&:lIƋ&2cmWcND#MB#?U"
  , "ĩTOMPI˦$,ȅ'do[[Ⱥ%dOƉ'UepGvWlTˊ#>GdHbP$GOL;bP$ķON$ĠBFC=lGB&DUlJMETEKdP&)BORASdJUDULdƺ'aLEP~A坥$KLA孿&GLA宀+偓&nC偖)P"
  , "L#nKco:FLA˧#BL#l:ML#pZct9cDZ垄*l#HLA型&mR˶#A孰)ɾ$mBd[Odn8覍&ɦ$KdMdLdNdPdRdTdNY&-DOdK$Gbk*$crAĠC3B=pSTA-ROLc!NYET |"
  , "YOOMcC*-W#!T.OOKd恔BC4D=kB誇'aOL ~IKI螺>ckBl[;dAGd$Gd<dLA_AAKdAAJdAAMdAAWdL[ISdIHd&YdIRdLUdUCdUDdUNNdUYdL,EPdEDDd"
  , "oGd*RdLOdOTTdOBdOVdOHco1TTUDDAGcGAAHLAA Ɛ%AGc!MU-Ɩ%#RELA#PHA)KA#AHADcpSMUCAADd!kMauEĴwOV,Lķ-LEGGĪD,N)ROW OdWID"
  , "E ESdT<L T,!|REEƫ&Ɨ%蛭%eY;dUNBL>DĪUKĒC90=蜦(MTAVRULIĨ$eB$eG$eDONeoGeV&eZ>eT$enSeK$eLASer8eN)epBeP)eZH)eRAEeS$eT)"
  , "eUNePH)eKH)eGH$eQ)ep6e~&eC$eJILeCILe~)eX$eJH$eHAEeoWeHIEeWEeH)eHOEeFIeYNe蟶$emCG$epVe=1CBD=A>eɨ&蟕(厶(pSB&DU SURY"
  , "_P$G匏%URNAM_CAKR_LEU S;$G_!lBd!lQd!l3ĒCD0=VEDICoYK).$#.)#PR>KHAbk>IH.VAS#YAJURƯ$ MIDL&E SV)ITAb!oYƟ*AGGRAV;EDz"
  , "VĲĲKA|AK#tYkVǉ+Ƙ&zVǊ& S~ROED*ckMƔ%#!oXcƪ& $UD;TA贠%!kIlXĜkLcRIGǕ'.MIRIǖ(ĜA|)VAơ$b!kEpDdǉ%ĜmXcpD$Ɛ-Ǝ%(o5ĲƝ(n2$T)"
  , "GOMUKH_BAHIƍ(VAMAƌ&e(o5cTIRYAKcHEXIFORMmPn2ĜĜR|$Gcn2UBHAY;O ƶ##)DHAVIS)G#!sCboYtYkKĩy3cy4c;IKĳAboYmMkKĜkMĩkMȘ-"
  , "ĒDĢnPkBkCkDAeAEb!ĴmCbƔ%x7BeCeDeE|eƝ)mVeIơ&JeKeL(lKeMemXNeOe!mVƪ&xNƎ$eO(lKdmCpƶ'OUįoRl9OĲpUƘ&PemXRe!mCeTeUǆ+婥'Z"
  , "EDemCMư&VeWeZeEZHcwVL綐(SPIR$]pVasSƩ%r1euLeoNeqKePSIauEƘ%EL謮$kD_A,Bd!x7dDd,!mXdGdHd[JdKdLdMdNƕ%OdOU史&UdWckC_!mC"
  , "dpPdmCA,Bǀ$S~W_mVEĲmCdGdmC[KdMd>GdOd!mVd!ʁ#ʀ$dPǏ$!xNdmCMdVdpVdsVdsSr1dr0dsSqXdq6anPyMĴIeReUeɠ#Ɛ%sVer1ɝ#qXeƧ$ĴU"
  , ",B(lCmYĻDĻFĻMĻNĻPĻRf/2zCkFĲS(ĻTĻZdmCGʖ$uEoGa嫵(d|(STRIKE|ROUGHcĨI(lKĜkBpYĲPĜĨUƓ$qBdB(xYlLȂ*GĻKĻLȎ/ĻSĻE.ĻVĻXȏ$!A"
  , "(qMĻpPdD(lLkFo5dE(qMǙ#4ˋ#5mXĻ˶$ĻIĻmVOǍ(UĻEZHɖ$kCmCpPdCe(t_E|dmXmV,FduGJ(lKdrXGdm~dIƎ$pYdkDIfƌ$J(y0dLǺ%f!xƜ#LdM"
  , "(lLdmCM(mPLEGdN(kHƢ$qMdkDNdx7OdqXdSƩ$E.dTʗ&UmHdqBdkDUdVǆ&VdZeǢ&t_EZHdqWaoTqQnXp2c!nIbSNAKEkVbSUSP>SIONkRbMACļ-"
  , "ACUTEbGRAVE-Ɠ%ƚ'Ɣ$bƠ#ƚ'Ƨ%Ƴ%Ɵ,Ƙ*峷&RkVbBREǕ0Ɣ$bkMnNkKb!w9bx8kVb!ISbURƔ$USb!ǆ%FL;T>EDmVAeAEeAOeAVeCs3ewR剦%Gc!农%cĴ"
  , "KeLƑ(fMcĴNƑ)RcĴR ROTUNDAeSe!mPeZepPeBesVeS~WAeFeL(kMlCmYeO(幰1ePeE.eUƜ4WeA(oJe/2Oe/2UbkZrPkKbKAVYKAkKkGdkHĖkObW"
  , "IDEnHBRIDGEkVbkO幵$DELEīkRʧ#HpKʟ$v4nFk1bkHr9kKbkGr9kFk7r9kV@nPĨA(mMb/5kCġB(kOkKƑ/VƑ%!Ɠ&nJƢ)C(s3kFnIb/6Ɠ&Dǆ/Dǆ1D"
  , "ǆ-D(s3ĸƏ)nNkVƠ)E(oǦ#Xb/6Ɠ*ǹ.EƷ+!Ɠ&mYǈ*Ȯ%pKƵ)FȮ/G(oȌ*HƠ(Ƒ,VƑ,oJƱ,sǀ-pKȕ-Iȕ-I(oJɊ&Ƥ(K(Ǆ)Kˁ1K(nJƑ+L(kOǕ)LƳ%kFɌ#7"
  , "ƕ)nJkVƷ.nNƷ)M(nIǹ)Mɽ/Mɽ/NƢ/NȬ1NȬ/Nǵ-O(mYʁ&Ɠ-oJƓ*倄'Ɠ.ʺ/Pʺ+Pȟ*ĞĨRǹ)RɎ/Rʶ3Rʶ*ġSɴ%Ƒ.Ƣ.nIkFƦ%7ǻ(S(sQƑ'ƹ,8kCĖĨT(ǈ)T"
  , "ˍ1T(nJƑ/NƑ+U(oJƑ.mYƑ,Ƴ)Ơ(ˇ)Ǆ'3侀-V(mY˚)Vɴ/W(nXĸƏ*IƏ*儥-W˃/WǏ/XƢ/Xǂ-YƠ/Z(nNƠ)Zʻ1Zʻ(ĻHdT(oJdW(mMkKĻYdA(kG舸$mPSǠ%gp"
  , "ClKg!mNġ.)P Sįr0ġAȺ/A(lLkKƑ,nNˠ&Ɠ.XƓ0ƻ%7ƕ-mYƨ0Ǵ#ƨ,pKǣ&Ɠ.XƓ.ǣ2pKǣ0pKǣ(傛(E(ɕ)Eɦ/E倠-Eɵ1Eɵ1Eɵ3Eɵ1Eɵ3Iȃ/I俴,3ĨOƞ)OƯ/"
  , "Oȣ1Oȣ1Oȣ3Oȣ1Oȣ3O(rOǣ&Ɠ.XƓ.ǣ2rOǣ0rO侘1U(ɕ)Uɦ/Uȃ1Uȃ1Uȃ3Uȃ'ƨ.ɦ/Y击-Y儒/YȔ/Y倬-MIDDLE-WEL.pJĞƘ2 VĞƿ)t2ƿ$asSĴpP(mLfmJfm"
  , "LkFoBf/2ƌ'Dƌ)qLƌ$ġƲLįqVƲ>ĠF18=kDƬF20=ĴrSȼMƲNįpYʠPYǤOsOɴB4ʠ#ƬF5ʠ%qBȊEƸ)9=kDƸ&JgƑ#B=ƹ#hƋ#D=oDƉ$F=qLįpLʜMƲO傠'oBfo"
  , "DdqVƊ'rSƊ'pYƊ'sOƨ(Bƞ(LƊ'=1FĹpP(Ǡ#vTǬ%/2Ȇ'4Ǝ)DƎ'Ȋ'4ȼ&ƾ'yEƾNįrSǼ[rSǼY˶$ɸ[LkǼ[P(VRA~Yfo3foBȆ$!f!oDkFf=1FB6=qLgƘ#ġ"
  , "Ʊ/foDfyEbKOļISbyEbmLbqLb!vAkF˜(ǚ3Cǚ-偁-ǚ(Ɏ%doDd僗'YȂ+vAƟ#hoDǒ#Dǒ#fǻ%ġpYȮ0bƨ#D=mJǗ.qBǗ4dqK儔&dqB(ǟ-qBǟ.ư'JbvAǠ&boB"
  , "ĠFF2=ĴpLʌ5Fʌ-sO儥)ʌ*oDbmJ" ]

end CommandLine.Text
