import SecureChannel.Unicode.Table

/-! Scripts: the table of all code points and the names of the scripts. -/
namespace SecureChannel.Unicode.Script

private def text : String :=
  "Zyyy41Latn1aZyyy6Latn1aZyyy2fLatn1ZyyyfLatn1Zyyy5Latn17Zyyy1Latn1fZyyy1Latn1c1Zyyy27Latn5" ++
  "Zyyy5Bopo2Zyyy14Zinh70Grek4Zyyy1Grek3Zzzz2Grek4Zyyy1Grek1Zzzz4Grek1Zyyy1Grek1Zyyy1Grek3" ++
  "Zzzz1Grek1Zzzz1Grek14Zzzz1Grek3fCopteGrek10Cyrl85Zinh2Cyrla9Zzzz1Armn26Zzzz2Armn32Zzzz2" ++
  "Armn3Zzzz1Hebr37Zzzz8Hebr1bZzzz4Hebr6ZzzzbArab5Zyyy1Arab6Zyyy1ArabeZyyy1Arab3Zyyy1Arab20" ++
  "Zyyy1ArabaZinhbArab1aZinh1Arab6cZyyy1Arab22SyrceZzzz1Syrc3cZzzz2Syrc3Arab30Thaa32Zzzze" ++
  "Nkoo3bZzzz2Nkoo3Samr2eZzzz2SamrfZzzz1Mand1cZzzz2Mand1Zzzz1SyrcbZzzz5Arab1fZzzz1Arab2Zzzz5" ++
  "Arab4bZyyy1Arab1dDeva51Zinh4DevafZyyy2Deva1aBeng4Zzzz1Beng8Zzzz2Beng2Zzzz2Beng16Zzzz1Beng7" ++
  "Zzzz1Beng1Zzzz3Beng4Zzzz2Beng9Zzzz2Beng2Zzzz2Beng4Zzzz8Beng1Zzzz4Beng2Zzzz1Beng5Zzzz2" ++
  "Beng19Zzzz2Guru3Zzzz1Guru6Zzzz4Guru2Zzzz2Guru16Zzzz1Guru7Zzzz1Guru2Zzzz1Guru2Zzzz1Guru2" ++
  "Zzzz2Guru1Zzzz1Guru5Zzzz4Guru2Zzzz2Guru3Zzzz3Guru1Zzzz7Guru4Zzzz1Guru1Zzzz7Guru11Zzzza" ++
  "Gujr3Zzzz1Gujr9Zzzz1Gujr3Zzzz1Gujr16Zzzz1Gujr7Zzzz1Gujr2Zzzz1Gujr5Zzzz2GujraZzzz1Gujr3" ++
  "Zzzz1Gujr3Zzzz2Gujr1ZzzzfGujr4Zzzz2GujrcZzzz7Gujr7Zzzz1Orya3Zzzz1Orya8Zzzz2Orya2Zzzz2" ++
  "Orya16Zzzz1Orya7Zzzz1Orya2Zzzz1Orya5Zzzz2Orya9Zzzz2Orya2Zzzz2Orya3Zzzz7Orya3Zzzz4Orya2" ++
  "Zzzz1Orya5Zzzz2Orya12ZzzzaTaml2Zzzz1Taml6Zzzz3Taml3Zzzz1Taml4Zzzz3Taml2Zzzz1Taml1Zzzz1" ++
  "Taml2Zzzz3Taml2Zzzz3Taml3Zzzz3TamlcZzzz4Taml5Zzzz3Taml3Zzzz1Taml4Zzzz2Taml1Zzzz6Taml1Zzzze" ++
  "Taml15Zzzz5TeludZzzz1Telu3Zzzz1Telu17Zzzz1Telu10Zzzz2Telu9Zzzz1Telu3Zzzz1Telu4Zzzz7Telu2" ++
  "Zzzz1Telu3Zzzz2Telu1Zzzz2Telu4Zzzz2TeluaZzzz7Telu9KndadZzzz1Knda3Zzzz1Knda17Zzzz1Kndaa" ++
  "Zzzz1Knda5Zzzz2Knda9Zzzz1Knda3Zzzz1Knda4Zzzz7Knda2Zzzz6Knda2Zzzz1Knda4Zzzz2KndaaZzzz1Knda3" ++
  "ZzzzcMlymdZzzz1Mlym3Zzzz1Mlym33Zzzz1Mlym3Zzzz1Mlym6Zzzz4Mlym10Zzzz2Mlym1aZzzz1Sinh3Zzzz1" ++
  "Sinh12Zzzz3Sinh18Zzzz1Sinh9Zzzz1Sinh1Zzzz2Sinh7Zzzz3Sinh1Zzzz4Sinh6Zzzz1Sinh1Zzzz1Sinh8" ++
  "Zzzz6SinhaZzzz2Sinh3ZzzzcThai3aZzzz4Zyyy1Thai1cZzzz25Laoo2Zzzz1Laoo1Zzzz1Laoo5Zzzz1Laoo18" ++
  "Zzzz1Laoo1Zzzz1Laoo17Zzzz2Laoo5Zzzz1Laoo1Zzzz1Laoo7Zzzz1LaooaZzzz2Laoo4Zzzz20Tibt48Zzzz1" ++
  "Tibt24Zzzz4Tibt27Zzzz1Tibt24Zzzz1TibtfZzzz1Tibt7Zyyy4Tibt2Zzzz25Mymra0Geor26Zzzz1Geor1" ++
  "Zzzz5Geor1Zzzz2Geor2bZyyy1Geor4Hang100Ethi49Zzzz1Ethi4Zzzz2Ethi7Zzzz1Ethi1Zzzz1Ethi4Zzzz2" ++
  "Ethi29Zzzz1Ethi4Zzzz2Ethi21Zzzz1Ethi4Zzzz2Ethi7Zzzz1Ethi1Zzzz1Ethi4Zzzz2EthifZzzz1Ethi39" ++
  "Zzzz1Ethi4Zzzz2Ethi43Zzzz2Ethi20Zzzz3Ethi1aZzzz6Cher56Zzzz2Cher6Zzzz2Cans280Ogam1dZzzz3" ++
  "Runr4bZyyy3RunrbZzzz7Tglg16Zzzz9Tglg1Hano15Zyyy2Zzzz9Buhd14ZzzzcTagbdZzzz1Tagb3Zzzz1Tagb2" ++
  "ZzzzcKhmr5eZzzz2KhmraZzzz6KhmraZzzz6Mong2Zyyy2Mong1Zyyy1Mong14Zzzz6Mong59Zzzz7Mong2bZzzz5" ++
  "Cans46ZzzzaLimb1fZzzz1LimbcZzzz4LimbcZzzz4Limb1Zzzz3LimbcTale1eZzzz2Tale5ZzzzbTalu2cZzzz4" ++
  "Talu1aZzzz6TalubZzzz3Talu2Khmr20Bugi1cZzzz2Bugi2Lana3fZzzz1Lana1dZzzz2LanabZzzz6LanaaZzzz6" ++
  "LanaeZzzz2Zinh1fZzzz31Bali4dZzzz1Bali32Sund40Batk34Zzzz8Batk4Lepc38Zzzz3LepcfZzzz3Lepc3" ++
  "Olck30CyrlbZzzz5Geor2bZzzz2Geor3Sund8Zzzz8Zinh3Zyyy1ZinhdZyyy1Zinh7Zyyy4Zinh1Zyyy6Zinh1" ++
  "Zyyy3Zinh2Zyyy1Zzzz5Latn26Grek5Cyrl1Latn31Grek5Latn4Grek5LatndCyrl1Latn46Grek1Zinh40" ++
  "Latn100Grek16Zzzz2Grek6Zzzz2Grek26Zzzz2Grek6Zzzz2Grek8Zzzz1Grek1Zzzz1Grek1Zzzz1Grek1Zzzz1" ++
  "Grek1fZzzz2Grek35Zzzz1GrekfZzzz1GrekeZzzz2Grek6Zzzz1Grek13Zzzz2Grek3Zzzz1Grek9Zzzz1Zyyyc" ++
  "Zinh2Zyyy57Zzzz1ZyyybLatn1Zzzz2ZyyybLatn1ZyyyfZzzz1LatndZzzz3Zyyy21ZzzzfZinh21ZzzzfZyyy26" ++
  "Grek1Zyyy3Latn2Zyyy6Latn1Zyyy1bLatn1Zyyy11Latn29Zyyy3Zzzz4Zyyy29aZzzz16ZyyybZzzz15Zyyy3a0" ++
  "Brai100Zyyy274Zzzz2Zyyy20Zzzz1Zyyy69Glag60Latn20Copt74Zzzz5Copt7Geor26Zzzz1Geor1Zzzz5Geor1" ++
  "Zzzz2Tfng38Zzzz7Tfng2ZzzzeTfng1Ethi17Zzzz9Ethi7Zzzz1Ethi7Zzzz1Ethi7Zzzz1Ethi7Zzzz1Ethi7" ++
  "Zzzz1Ethi7Zzzz1Ethi7Zzzz1Ethi7Zzzz1Cyrl20Zyyy5eZzzz22Hani1aZzzz1Hani59ZzzzcHanid6Zzzz1a" ++
  "Zyyy15Hani1Zyyy1Hani1Zyyy19Hani9Zinh4Hang2Zyyy8Hani4Zyyy4Zzzz1Hira56Zzzz2Zinh2Zyyy2Hira3" ++
  "Zyyy1Kana5aZyyy2Kana3Zzzz5Bopo2bZzzz1Hang5eZzzz1Zyyy10Bopo20Zyyy26Zzzz9Zyyy1Kana10Hang1f" ++
  "Zzzz1Zyyy40Hang1fZyyy51Kana2fZyyy1Kana58Zyyya8Hani19c0Zyyy40Hani5200Yiii48dZzzz3Yiii37" ++
  "Zzzz9Lisu30Vaii12cZzzz14Cyrl60Bamu58Zzzz8Zyyy22Latn66Zyyy3Latn43Zzzz2Latn2Zzzz1Latn1Zzzz1" ++
  "Latn8Zzzz15LatneSylo2dZzzz3ZyyyaZzzz6Phag38Zzzz8Saur46Zzzz8SaurcZzzz6Deva20Kali2eZyyy1" ++
  "Kali1Rjng24ZzzzbRjng1Hang1dZzzz3Java4eZzzz1Zyyy1JavaaZzzz4Java2Mymr1fZzzz1Cham37Zzzz9Chame" ++
  "Zzzz2ChamaZzzz2Cham4Mymr20Tavt43Zzzz18Tavt5Mtei17ZzzzaEthi6Zzzz2Ethi6Zzzz2Ethi6Zzzz9Ethi7" ++
  "Zzzz1Ethi7Zzzz1Latn2bZyyy1Latn9Grek1Latn4Zyyy2Zzzz4Cher50Mtei2eZzzz2MteiaZzzz6Hang2ba4" ++
  "ZzzzcHang17Zzzz4Hang31Zzzz2104Hani16eZzzz2Hani6aZzzz26Latn7ZzzzcArmn5Zzzz5Hebr1aZzzz1Hebr5" ++
  "Zzzz1Hebr1Zzzz1Hebr2Zzzz1Hebr2Zzzz1HebraArab73Zzzz10Arab16bZyyy2Arab50Zzzz2Arab36Zzzz7" ++
  "Arab1Zzzz20Arab10Zinh10ZyyyaZzzz6ZinheCyrl2Zyyy23Zzzz1Zyyy13Zzzz1Zyyy4Zzzz4Arab5Zzzz1" ++
  "Arab87Zzzz2Zyyy1Zzzz1Zyyy20Latn1aZyyy6Latn1aZyyybKanaaZyyy1Kana2dZyyy2Hang1fZzzz3Hang6" ++
  "Zzzz2Hang6Zzzz2Hang6Zzzz2Hang3Zzzz3Zyyy7Zzzz1Zyyy7ZzzzaZyyy5Zzzz2LinbcZzzz1Linb1aZzzz1" ++
  "Linb13Zzzz1Linb2Zzzz1LinbfZzzz2LinbeZzzz22Linb7bZzzz5Zyyy3Zzzz4Zyyy2dZzzz3Zyyy9Grek4fZzzz1" ++
  "ZyyydZzzz3Grek1Zzzz2fZyyy2dZinh1Zzzz82Lyci1dZzzz3Cari31ZzzzfZinh1Zyyy1bZzzz4Ital24Zzzz9" ++
  "Ital3Goth1bZzzz5Perm2bZzzz5Ugar1eZzzz1Ugar1Xpeo24Zzzz4XpeoeZzzz2aDsrt50Shaw30Osma1eZzzz2" ++
  "OsmaaZzzz6Osge24Zzzz4Osge24Zzzz4Elba28Zzzz8Aghb34ZzzzbAghb1VithbZzzz1VithfZzzz1Vith7Zzzz1" ++
  "Vith2Zzzz1VithbZzzz1VithfZzzz1Vith7Zzzz1Vith2Zzzz3Todr34ZzzzcLina137Zzzz9Lina16ZzzzaLina8" ++
  "Zzzz18Latn6Zzzz1Latn2aZzzz1Latn9Zzzz45Cprt6Zzzz2Cprt1Zzzz1Cprt2cZzzz1Cprt2Zzzz3Cprt1Zzzz2" ++
  "Cprt1Armi16Zzzz1Armi9Palm20Nbat1fZzzz8Nbat9Zzzz30Hatr13Zzzz1Hatr2Zzzz5Hatr5Phnx1cZzzz3" ++
  "Phnx1Lydi1aZzzz5Lydi1Zzzz40Mero20Merc18Zzzz4Merc14Zzzz2Merc2eKhar4Zzzz1Khar2Zzzz5Khar8" ++
  "Zzzz1Khar3Zzzz1Khar1dZzzz2Khar3Zzzz4KharaZzzz7Khar9Zzzz7Sarb20Narb20Zzzz20Mani27Zzzz4Manic" ++
  "Zzzz9Avst36Zzzz3Avst7Prti16Zzzz2Prti8Phli13Zzzz5Phli8Phlp12Zzzz7Phlp4ZzzzcPhlp7Zzzz50" ++
  "Orkh49Zzzz37Hung33ZzzzdHung33Zzzz7Hung6Rohg28Zzzz8RohgaZzzz6Gara26Zzzz3Gara1dZzzz8Gara2" ++
  "Zzzzd0Arab1fZzzz1Yezi2aZzzz1Yezi3Zzzz2Yezi2Zzzz10Arab3Zzzz37Arab4Sogo28Zzzz8Sogd2aZzzz16" ++
  "Ougr1aZzzz26Chrs1cZzzz14Elym17Zzzz9Brah4eZzzz4Brah24Zzzz9Brah1Kthi43ZzzzaKthi1Zzzz2Sora19" ++
  "Zzzz7SoraaZzzz6Cakm35Zzzz1Cakm12Zzzz8Mahj27Zzzz9Shrd60Zzzz1Sinh14ZzzzbKhoj12Zzzz1Khoj2f" ++
  "Zzzz3eMult7Zzzz1Mult1Zzzz1Mult4Zzzz1MultfZzzz1MultbZzzz6Sind3bZzzz5SindaZzzz6Gran4Zzzz1" ++
  "Gran8Zzzz2Gran2Zzzz2Gran16Zzzz1Gran7Zzzz1Gran2Zzzz1Gran5Zzzz1Zinh1Gran9Zzzz2Gran2Zzzz2" ++
  "Gran3Zzzz2Gran1Zzzz6Gran1Zzzz5Gran7Zzzz2Gran7Zzzz3Gran5ZzzzbTutgaZzzz1Tutg1Zzzz2Tutg1Zzzz1" ++
  "Tutg26Zzzz1TutgaZzzz1Tutg1Zzzz2Tutg1Zzzz1Tutg4Zzzz1TutgaZzzz1Tutg2Zzzz8Tutg2Zzzz1dNewa5c" ++
  "Zzzz1Newa5Zzzz1eTirh48Zzzz8TirhaZzzza6Sidd36Zzzz2Sidd26Zzzz22Modi45ZzzzbModiaZzzz6Mongd" ++
  "Zzzz13Takr3aZzzz6TakraZzzz6Mymr14Zzzz1cAhom1bZzzz2AhomfZzzz4Ahom17Zzzzb9Dogr3cZzzz64Wara53" ++
  "ZzzzcWara1Diak7Zzzz2Diak1Zzzz2Diak8Zzzz1Diak2Zzzz1Diak1eZzzz1Diak2Zzzz2DiakcZzzz9Diaka" ++
  "Zzzz46Nand8Zzzz2Nand2eZzzz2NandbZzzz1bZanb48Zzzz8Soyo53ZzzzdCans10Pauc39Zzzz7DevaaZzzzb6" ++
  "Sunu22ZzzzeSunuaZzzz6Bhks9Zzzz1Bhks2dZzzz1BhkseZzzzaBhks1dZzzz3Marc20Zzzz2Marc16Zzzz1Marce" ++
  "Zzzz49Gonm7Zzzz1Gonm2Zzzz1Gonm2cZzzz3Gonm1Zzzz1Gonm2Zzzz1Gonm9Zzzz8GonmaZzzz6Gong6Zzzz1" ++
  "Gong2Zzzz1Gong25Zzzz1Gong2Zzzz1Gong6Zzzz7GongaZzzz136Maka19Zzzz7Kawi11Zzzz1Kawi29Zzzz3" ++
  "Kawi1dZzzz55Lisu1ZzzzfTaml32ZzzzdTaml1Xsux39aZzzz66Xsux6fZzzz1Xsux5ZzzzbXsuxc4Zzzza4c" ++
  "Cpmn63ZzzzdEgyp456ZzzzaEgypf9bZzzz5Hluw247Zzzz1ab9Gukh3aZzzz6c6Bamu239Zzzz7Mroo1fZzzz1" ++
  "MrooaZzzz4Mroo2Tnsa4fZzzz1TnsaaZzzz6Bass1eZzzz2Bass6ZzzzaHmng46ZzzzaHmngaZzzz1Hmng7Zzzz1" ++
  "Hmng15Zzzz5Hmng13Zzzz1b0Krai3aZzzzc6Medf5bZzzz65Plrd4bZzzz4Plrd39Zzzz7Plrd11Zzzz40Tang1" ++
  "Nshu1Hani2Kits1ZzzzbHani2ZzzzeTang17f8Zzzz8Tang300Kits1d6Zzzz29Kits1Tang9Zzzz22e7Kana4" ++
  "Zzzz1Kana7Zzzz1Kana2Zzzz1Kana1Hira11fKana3ZzzzfHira1Zzzz1dHira3Zzzz2Kana1ZzzzeKana4Zzzz8" ++
  "Nshu18cZzzz904Dupl6bZzzz5DupldZzzz3Dupl9Zzzz7DuplaZzzz2Dupl4Zyyy4Zzzzf5cZyyyfaZzzz6Zyyy1b4" ++
  "Zzzz4cZinh2eZzzz2Zinh17Zzzz9Zyyy74Zzzz3cZyyyf6ZzzzaZyyy27Zzzz2Zyyy3eZinh3Zyyy11Zinh8Zyyy2" ++
  "Zinh7Zyyy1eZinh4Zyyy3dZzzz15Grek46Zzzz7aZyyy14ZzzzcZyyy14ZzzzcZyyy57Zzzz9Zyyy19Zzzz87" ++
  "Zyyy55Zzzz1Zyyy47Zzzz1Zyyy2Zzzz2Zyyy1Zzzz2Zyyy2Zzzz2Zyyy4Zzzz1ZyyycZzzz1Zyyy1Zzzz1Zyyy7" ++
  "Zzzz1Zyyy41Zzzz1Zyyy4Zzzz2Zyyy8Zzzz1Zyyy7Zzzz1Zyyy1cZzzz1Zyyy4Zzzz1Zyyy5Zzzz1Zyyy1Zzzz3" ++
  "Zyyy7Zzzz1Zyyy154Zzzz2Zyyy124Zzzz2Zyyy32Sgnw28cZzzzfSgnw5Zzzz1SgnwfZzzz450Latn1fZzzz6Latn6" ++
  "Zzzzd5Glag7Zzzz1Glag11Zzzz2Glag7Zzzz1Glag2Zzzz1Glag5Zzzz5Cyrl3eZzzz21Cyrl1Zzzz70Hmnp2d" ++
  "Zzzz3HmnpeZzzz2HmnpaZzzz4Hmnp2Zzzz140Toto1fZzzz11Wcho3aZzzz5Wcho1Zzzz1d0Nagm2aZzzzd6Onao2b" ++
  "Zzzz4Onao1Zzzz1e0Ethi7Zzzz1Ethi4Zzzz1Ethi2Zzzz1EthifZzzz1Mendc5Zzzz2Mend10Zzzz29Adlm4c" ++
  "Zzzz4AdlmaZzzz4Adlm2Zzzz311Zyyy44Zzzz4cZyyy3dZzzzc2Arab4Zzzz1Arab1bZzzz1Arab2Zzzz1Arab1" ++
  "Zzzz2Arab1Zzzz1ArabaZzzz1Arab4Zzzz1Arab1Zzzz1Arab1Zzzz6Arab1Zzzz4Arab1Zzzz1Arab1Zzzz1Arab1" ++
  "Zzzz1Arab3Zzzz1Arab2Zzzz1Arab1Zzzz2Arab1Zzzz1Arab1Zzzz1Arab1Zzzz1Arab1Zzzz1Arab1Zzzz1Arab2" ++
  "Zzzz1Arab1Zzzz2Arab4Zzzz1Arab7Zzzz1Arab4Zzzz1Arab4Zzzz1Arab1Zzzz1ArabaZzzz1Arab11Zzzz5" ++
  "Arab3Zzzz1Arab5Zzzz1Arab11Zzzz34Arab2Zzzz10eZyyy2cZzzz4Zyyy64ZzzzcZyyyfZzzz2ZyyyfZzzz1" ++
  "ZyyyfZzzz1Zyyy25ZzzzaZyyyaeZzzz38Zyyy1aHira1Zyyy2ZzzzdZyyy2cZzzz4Zyyy9Zzzz7Zyyy2ZzzzeZyyy6" ++
  "Zzzz9aZyyy3d8Zzzz4Zyyy11Zzzz3ZyyydZzzz3Zyyy77Zzzz4Zyyy5fZzzz6ZyyycZzzz4Zyyy1ZzzzfZyyyc" ++
  "Zzzz4Zyyy38Zzzz8ZyyyaZzzz6Zyyy28Zzzz8Zyyy1eZzzz2ZyyycZzzz4Zyyy2Zzzz3eZyyy154ZzzzcZyyye" ++
  "Zzzz2ZyyydZzzz3ZyyyaZzzz5Zyyy38Zzzz7ZyyyfZzzz2ZyyybZzzz6Zyyy9Zzzz7Zyyy93Zzzz1Zyyy66Zzzz406" ++
  "Hania6e0Zzzz20Hani103aZzzz6HanideZzzz2Hani1682ZzzzeHani1d31ZzzzfHani26eZzzz9a2Hani21e" ++
  "Zzzz5e2Hani134bZzzz5Hani1060Zzzzadc51Zyyy1Zzzz1eZyyy60Zzzz80Zinhf0Zzzz2fe10"

def table : List Run := runs 4 text

/-- Each row is a code followed by the longer names, folded to lower case without separators. -/
private def nameText : String :=
  "Adlm,adlam Aghb,caucasianalbanian Ahom Arab,arabic Armi,imperialaramaic Armn,armenian " ++
  "Avst,avestan Bali,balinese Bamu,bamum Bass,bassavah Batk,batak Beng,bengali " ++
  "Bhks,bhaiksuki Bopo,bopomofo Brah,brahmi Brai,braille Bugi,buginese Buhd,buhid " ++
  "Cakm,chakma Cans,canadianaboriginal Cari,carian Cham Cher,cherokee Chrs,chorasmian " ++
  "Copt,coptic,qaac Cpmn,cyprominoan Cprt,cypriot Cyrl,cyrillic Deva,devanagari " ++
  "Diak,divesakuru Dogr,dogra Dsrt,deseret Dupl,duployan Egyp,egyptianhieroglyphs " ++
  "Elba,elbasan Elym,elymaic Ethi,ethiopic Gara,garay Geor,georgian Glag,glagolitic " ++
  "Gong,gunjalagondi Gonm,masaramgondi Goth,gothic Gran,grantha Grek,greek Gujr,gujarati " ++
  "Gukh,gurungkhema Guru,gurmukhi Hang,hangul Hani,han Hano,hanunoo Hatr,hatran Hebr,hebrew " ++
  "Hira,hiragana Hluw,anatolianhieroglyphs Hmng,pahawhhmong Hmnp,nyiakengpuachuehmong " ++
  "Hung,oldhungarian Ital,olditalic Java,javanese Kali,kayahli Kana,katakana Kawi " ++
  "Khar,kharoshthi Khmr,khmer Khoj,khojki Kits,khitansmallscript Knda,kannada Krai,kiratrai " ++
  "Kthi,kaithi Lana,taitham Laoo,lao Latn,latin Lepc,lepcha Limb,limbu Lina,lineara " ++
  "Linb,linearb Lisu Lyci,lycian Lydi,lydian Mahj,mahajani Maka,makasar Mand,mandaic " ++
  "Mani,manichaean Marc,marchen Medf,medefaidrin Mend,mendekikakui Merc,meroiticcursive " ++
  "Mero,meroitichieroglyphs Mlym,malayalam Modi Mong,mongolian Mroo,mro Mtei,meeteimayek " ++
  "Mult,multani Mymr,myanmar Nagm,nagmundari Nand,nandinagari Narb,oldnortharabian " ++
  "Nbat,nabataean Newa Nkoo,nko Nshu,nushu Ogam,ogham Olck,olchiki Onao,olonal " ++
  "Orkh,oldturkic Orya,oriya Osge,osage Osma,osmanya Ougr,olduyghur Palm,palmyrene " ++
  "Pauc,paucinhau Perm,oldpermic Phag,phagspa Phli,inscriptionalpahlavi Phlp,psalterpahlavi " ++
  "Phnx,phoenician Plrd,miao Prti,inscriptionalparthian Rjng,rejang Rohg,hanifirohingya " ++
  "Runr,runic Samr,samaritan Sarb,oldsoutharabian Saur,saurashtra Sgnw,signwriting " ++
  "Shaw,shavian Shrd,sharada Sidd,siddham Sind,khudawadi Sinh,sinhala Sogd,sogdian " ++
  "Sogo,oldsogdian Sora,sorasompeng Soyo,soyombo Sund,sundanese Sunu,sunuwar " ++
  "Sylo,sylotinagri Syrc,syriac Tagb,tagbanwa Takr,takri Tale,taile Talu,newtailue " ++
  "Taml,tamil Tang,tangut Tavt,taiviet Telu,telugu Tfng,tifinagh Tglg,tagalog Thaa,thaana " ++
  "Thai Tibt,tibetan Tirh,tirhuta Tnsa,tangsa Todr,todhri Toto Tutg,tulutigalari " ++
  "Ugar,ugaritic Vaii,vai Vith,vithkuqi Wara,warangciti Wcho,wancho Xpeo,oldpersian " ++
  "Xsux,cuneiform Yezi,yezidi Yiii,yi Zanb,zanabazarsquare Zinh,inherited,qaai Zyyy,common"

def names : List (String × List String) :=
  (nameText.toList.splitOn ' ').filterMap fun row =>
    match (row.splitOn ',').map String.ofList with
    | [] => none
    | code :: longer => some (code, code.toLower :: longer)

def code? (name : String) : Option String := (names.find? (·.2.contains name)).map (·.1)

def named? (name : String) : Option CharSet :=
  (code? name).map fun code => select table (· == code)

end SecureChannel.Unicode.Script
