import SecureChannel.Unicode.Table

/-! Ages: the versions of the standard that first assigned the code points. -/
namespace SecureChannel.Unicode.Age

private def text : String :=
  "A11f6C04A11eC08C21D01C012D03D1bE0eA159C05D02A12fC01A1aC05D011A146C09C21D08D15D03A12C01C2d" ++
  "E14A12E12Z02A11E03A11G01Z04A17Z01A11Z01A114Z01A12cE11A17C01C22A11C01A11C01A11C01A11C01A112" ++
  "C12C21D05D14C01A1cC01A142C01A1cC01A129E11C02C22C04A135C22A12C22A12C22E01A11cC02A18D12A12" ++
  "E06C210E04E110E22F02G08Z01A126Z02A17K01A127K01A11C01Z02G02F11Z01B011D11B0dA1aE01A19B01D13" ++
  "Z08A11bZ04K01A15Z0bD04F11G01E15D11A11D09E15A11F31N01D11A11F01A11aE15A113C03D03D16F01A1eC22" ++
  "A148C02A15C01A1fC01A11eD02A1aC05D01C0eZ01C01eD03C01bZ02D03D11eE112C031C21Z0eE03bZ02K03E22e" ++
  "Z02E2fZ01F01cZ02F01Z01J0bZ05N01fZ01N02Z05P01N08F11G01F1bG06H02N01I08M0aN0bK01I0fH01F11bG01" ++
  "E21A13D01A135F02A112E21F01A15E21F02A119E12F05G01E22E02D11E02G01A13Z01A18Z02A12Z02A116Z01" ++
  "A17Z01A11Z03A14Z02A11D01A17Z02A12Z02A13D11Z08A11Z04A12Z01A15Z02A115E21J02K01Z02D01A11D01" ++
  "Z01A16Z04A12Z02A116Z01A17Z01A12Z01A12Z01A12Z02A11Z01A15Z04A12Z02A13Z03E11Z07A14Z01A11Z07" ++
  "A1fE11K01Z0aA13Z01A17D01A11Z01A13Z01A116Z01A17Z01A12Z01A15Z02A1aZ01A13Z01A13Z02A11Z0fA11" ++
  "D03Z02A1aF11D01Z07H01J06Z01A13Z01A18Z02A12Z02A116Z01A17Z01A12Z01D01A14Z02A18E11Z02A12Z02" ++
  "A13Z07M01A12Z04A12Z01A13E12Z02A1bD01F06Z0aA12Z01A16Z03A13Z01A14Z03A12Z01A11Z01A12Z03A12Z03" ++
  "A13Z03A18D11A13Z04A15Z03A13Z01A14Z02E11Z06A11Z0eD11A1cD08Z05G01A13K01A18Z01A13Z01A117Z01" ++
  "A1aG01A15Z02N01E11A17Z01A13Z01A14Z07A12Z01E12H01Z02N01Z02A12E12Z02A1aZ07L01E18I01G01A12K01" ++
  "A18Z01A13Z01A117Z01A1aZ01A15Z02D02A17Z01A13Z01A14Z07A12Z06N01A11Z01A12E02Z02A1aZ01E02O01" ++
  "Z0cJ01G01A12M01A18Z01A13Z01A117F01A110F01J02E11A16E11Z01A13Z01A14F01I01Z04I03A11I07H01A12" ++
  "E12Z02A1aE16I03E17Z01M01C02Z01C012Z03C018Z01C09Z01C01Z02C07Z03C01Z04C06Z01C01Z01C08Z06G0a" ++
  "Z02C03Z0cA13aZ04A11dZ025A12Z01A11Z01L01A12L01A11Z01L01A11L06A14L01A17L01A13Z01A11Z01A11L02" ++
  "A12L01A1dL01A13Z02A15Z01A11Z01A16O01Z01A1aZ02A12F12Z020B048Z01B021C01E12Z04B01bF04B06C01" ++
  "B01Z01B015C03B07C01B01C03Z01C0fZ01E11C01D12E13E24F02Z025C022E11C05E11C02E11C07E13C04E16" ++
  "C01aE140E24E12A126Z01F11Z05F11Z02A127C22D12A11D11F13A15aE25A144E25A152E26C07D11C03fD11C01" ++
  "Z01C04Z02C07Z01C01Z01C04Z02C027D11C01Z01C04Z02C01fD11C01Z01C04Z02C07Z01C01Z01C04Z02C07D11" ++
  "C07Z01C017D11C01fD11C01Z01C04Z02C07D11C027D11C013Z02F02D12C01cZ03D11aZ06C055H01Z02H06Z02" ++
  "E21C0276E29C01dZ03C051G08Z07C2dN01C27N01Z09N01C217Z09C214Z0cC2dZ01C23Z01C22Z0cC05dD01Z02" ++
  "C0aZ06D0aZ06C0fN01C0aZ06C058K01Z07C02aE11Z05E246Z0aD01dG02Z01D0cZ04D0cZ04D01Z03D02aZ02D05" ++
  "Z0bD12aE22Z04D11aZ06D1aE21Z03D12D020D11cZ02D12E23fZ01E21dZ02E2bZ06E2aZ06E2eZ02G0fM02N0e" ++
  "Z031E04cN01Z01P02E02dN02P01E12bF13E1cF16F034Z08F04E138Z03E1fZ03E133I09P02Z05K02bZ02K03F18" ++
  "Z08E223F14J01G02L01Z05D06cD158E07E11cG0fJ04N01I01F01E21E02A19bB01E14A15aE16A116Z02A16Z02" ++
  "A126Z02A16Z02A18Z01A11Z01A11Z01A11Z01A11fZ02A135Z01A1fZ01A1eZ02A16Z01A113Z02A13Z01A19Z01" ++
  "A12fC01A117C21C06C25D02D12C21D17C25E11Z01F34A17C21Z02A11bZ01D15F08Z03A1bB01B11C03C22D14E23" ++
  "F01F21G03H01J01N01Z0fA112C02C27D11E04E11Z0fA139C02D01D11C2fD11E02E11E23A130C01E01E14E21H02" ++
  "Z04A15bC09C2cA1f2C2eA11C01A179C01C21C01eC234D02D1bE0cE21F0bG07I04J01A125C02P03Z016A1bZ015" ++
  "A18bC214D01A196C2aA150C08C28A114D02C22D11C01A156C02C2cD12C2aD08D1bE11E22D02D110E01E1aE23" ++
  "E14E2aF01E213F01E21F04E218G01A14F01A14F02A11cF01A123F01A11F01A14F03A11E21A17F02A17C2eA11f" ++
  "F03A118F01A1eF01D17E04F11E11F11F02C21cE14C210C0100C2200D0eD16E07E15E04E129G03E15E25G01aZ02" ++
  "G020Z01M01G022K03G0cL01G08J01K019H04K0fL01D12fN01D12fN01E0dE13E21E13E04E16E22D16bE27F12Z05" ++
  "D12dZ01F11Z05F11Z02D136F12Z07D11F01Z0eF01D117Z09D17Z01D17Z01D17Z01D17Z01D17Z01D17Z01D17Z01" ++
  "D17Z01E120D118E14D12E113E21F1aG07I02J05K05L01M03N0bZ022C01aZ01C059Z0cC0d6Z01aC0cO14A138C03" ++
  "C23C01A11Z01A154C22Z02A16C22A15eC21Z05A128E11J01K01Z01A15eZ01A110C018F03M05D110E114P02Z09" ++
  "O11C210A11dD02Z01A124E2cD01C2fA11cD02D11A132C2fA1cD04A12fL11A177D04A163D02A11fD01C019b6M0a" ++
  "D040A151a6D116E18E28F11H09J015K05M0dN03C048dZ03C012C22C010C21C0cC21C03C21C01Z09E230E112c" ++
  "Z014E120F02E112F18E11cG06H01F11E258Z08D117E04E15E02E16bF02H01F02F12G0cF0aF11G03I01K01G02" ++
  "H06K02L06N02L05M04P03Z02N02Z01N01Z01N05P03Z015N03M02G01F12F01E15D12cM01Z03E2aZ06E038Z08" ++
  "E145I01Z08E1cZ06E21cH02K02E154Z0bE11E21dZ03E24eZ01E2bZ04E22G01fZ01E137Z09E1eZ02E1aZ02E14" ++
  "E21cG04E243Z018E25F117Z0aF06Z02F06Z02F06Z09F07Z01F07Z01G030H04G02L02M04Z04H050E22eZ02E2a" ++
  "Z06B02ba4Z0cE217Z04E231Z0804A11a2eF12C23bE23Z02D16aZ026A17Z0cA15Z05C01A119Z01A15Z01A11Z01" ++
  "A12Z01A12Z01A16cF010N01Z010A116dN010A140Z02A136Z07N01C120A1cC21D01N02C210D1aZ06A14E13G07" ++
  "H02A115C22D02A1aZ01A113Z01A14Z04A13C21A11Z01A187Z02A11Z01A15eC22A15eZ03A16Z02A16Z02A16Z02" ++
  "A13Z03A17Z01A17Z0aC03B11A13D0cZ01D01aZ01D013Z01D02Z01D0fZ02D0eZ022D07bZ05D03Z04D02dZ03D09" ++
  "D14bG02I02Z01E1cM01Z03G01Z02fE12eZ082E11dZ03E131Z0fG01cZ04C11fG01C14Z09J03C11bZ05G02bZ05" ++
  "D01eZ01D01D124Z04D1eZ02aC126D02C126D050Z02D0aZ06I024Z04I024Z04G028Z08G034Z0bG01N0bZ01N0f" ++
  "Z01N07Z01N02Z01N0bZ01N0fZ01N07Z01N02Z03P034Z0cG0137Z09G016Z0aG08Z018N06Z01N02aZ01N09Z045" ++
  "D06Z02D01Z01D02cZ01D02Z03D01Z02D01E216Z01E29G03fZ08G09Z030H013Z01H02Z05H05E01aE22Z03E01" ++
  "E11aZ05E11Z040F138Z04H02F12H010Z02H02eD14Z01D12Z05D18Z01D13Z01D11bK02Z02D13Z04D19K01Z07D19" ++
  "Z07E220G020Z020G027Z04G0cZ09E236Z03E21dZ02E21bZ05E28G012Z07G04Z0cG07Z050E249Z037H033Z0d" ++
  "H033Z07H06K028Z08K0aZ06P026Z03P01dZ08P02Z0d0E21fZ01M02aZ01M03Z02M02Z010P03Z037P01O03K028" ++
  "Z08K02aZ016N01aZ026M01cZ014L017Z09F04eZ04F01eN06Z09G01E242N01Z0aK01Z02F119Z07F1aZ06F135Z01" ++
  "F1eK03M01Z08G027Z09F149H04G01M02F1aG01H05Z01G014Z0bG012Z01G02bI01O03Z03eH07Z01H01Z01H04Z01" ++
  "H0fZ01H0bZ06G03bZ05G0aZ06H01G03Z01G08Z02G02Z02G016Z01G07Z01G02Z01G05Z01K01G09Z02G02Z02G03" ++
  "Z02H01Z06G01Z05G07Z02G07Z03G05Z0bP0aZ01P01Z02P01Z01P026Z01P0aZ01P01Z02P01Z01P04Z01P0aZ01" ++
  "P02Z08P02Z01dI05aM01I01Z01I01K01L01M02Z01eG048Z08G0aZ0a6G036Z02G012H014Z022G045Z0bG0aZ06" ++
  "I0dZ013F138L01N01Z06F1aZ06P014Z01cH01aK01Z02H0fZ04H010N07Z0b9K03cZ064G053Z0cG01M07Z02M01" ++
  "Z02M08Z01M02Z01M01eZ01M02Z02M0cZ09M0aZ046L08Z02L02eZ02L0bZ01bJ048Z08J034L02J017K01J05Z0d" ++
  "N010G039Z07O0aZ0b6P022Z0eP0aZ06I09Z01I02dZ01I0eZ0aI01dZ03I020Z02I016Z01I0eZ049J07Z01J02Z01" ++
  "J02cZ03J01Z01J02Z01J09Z08J0aZ06K06Z01K02Z01K025Z01K02Z01K06Z07K0aZ0136K019Z07O011Z01O029" ++
  "Z03O01cP01Z055M01Z0fL032Z0dL01E036fG02aH01Z066E063G0cZ01E04G01Z0bH0c4Z0a4cN063Z0dE242fO01" ++
  "L09O01dZ0aP0f9bZ05H0247Z01ab9P03aZ06c6F0239Z07G01fZ01G0aZ04G02N04fZ01N0aZ06G01eZ02G06Z0a" ++
  "G046Z0aG0aZ01G07Z01G015Z05G013Z01b0P03aZ0c6K05bZ065F145L06Z04L01F12fL09Z07F111Z040I01J01" ++
  "L02M01Z0bM02Z0eI017edK05L06Z08I02f3M01e3Z029P01M09Z022e7N04Z01N07Z01N02Z01F02J011dN04Z0f" ++
  "O01Z01dL03Z02O01Z0eL04Z08J018cZ0904G06bZ05G0dZ03G09Z07G0aZ02G08Z0f5cP0faZ06P01b4Z04cN02e" ++
  "Z02N017Z09N074Z03cC1f6Z0aC127Z02E11C1b4H0bN02Z015D146Z07aO014Z0cK014Z0cD057Z09E012K07Z087" ++
  "C155Z01C147Z01C12Z02C11Z02C12Z02C14Z01C1cZ01C11Z01C14D01C12Z01C141Z01C14Z02C18Z01C17Z01" ++
  "C11cZ01C14Z01C15Z01C11Z03C17Z01C1152D12Z02C1122E02Z02C132H028cZ0fH05Z01H0fZ0450N01fZ06O06" ++
  "Z0d5I07Z01I011Z02I07Z01I02Z01I05Z05O03eZ021O01Z070L02dZ03L0eZ02L0aZ04L02Z0140N01fZ011L03a" ++
  "Z05L01Z01d0O02aZ0d6P02bZ04P01Z01e0N07Z01N04Z01N02Z01N0fZ01G0c5Z02G010Z029I04bL01Z04I0aZ04" ++
  "I02Z0311K044Z04cL03dZ0c2F14Z01F11bZ01F12Z01F11Z02F11Z01F1aZ01F14Z01F11Z01F11Z06F11Z04F11" ++
  "Z01F11Z01F11Z01F13Z01F12Z01F11Z02F11Z01F11Z01F11Z01F11Z01F11Z01F12Z01F11Z02F14Z01F17Z01F14" ++
  "Z01F14Z01F11Z01F1aZ01F111Z05F13Z01F15Z01F111Z034F12Z010eE12cZ04E164Z0cF0fZ02F0eG01Z01F0f" ++
  "Z01F0fG016Z0aE2bG02M03E21fK01F01E21F0bE21F01E21F02E21F03E21F03E25F08E21F07E21F0aF12L01M03" ++
  "F09E21F01E22F02E21F0aE24F02E21F0aI012M01Z038F01aE21F02Z0dE222F09I01Z04E29Z07F02Z0eJ06Z09a" ++
  "F021G0cH03F06G01F046G01H02F014G0cF025G01F05G04H05G0cF011G07H08F03fG01F01G01F0b6G01F04G02" ++
  "H01F03eG02F14G07H05F018G012I01G029I01G056F05F11F010F11F03F11F01F11F01F11F01F11F03F11F06F12" ++
  "F04F11F01F12F04F11F0cG02H02F0bG030F046G0aH01I02J02L01M02Z04O01N03G0dZ03G04I03J02K01L01M02" ++
  "Z03F074O03Z04O05G055K04O01Z06L0cZ04N01Z0fG0cZ04G038Z08G0aZ06G028Z08G01eZ02M02P0aZ04P02Z03e" ++
  "J0cM01L03H09I06J01I08J08I01J02I0cL01I0cJ01K03I0fJ0dK05L01M01K04M02N01K01L01K04H05I0dJ06K0b" ++
  "M02L06M03L02K0aL06H01K02L08M01N01L03J017K019L054Z0cK0eZ02L04M01O03L03N02Z03L03M04O02P01Z05" ++
  "P01L06M013N04O03M07N04O03P01O01M03N03P01Z07O02M07N03O02P01Z02P01N08O01P01Z06N07O02Z07M093" ++
  "Z01M037P025M0aZ0404B02C1a6d7M07N02Z020E21035N04O01Z06F0deZ02H01682Z0eJ01d31Z0fO126eZ09a2" ++
  "C121eZ05e0B02M0134bZ05O01060Z0dc4eB02Z0fffeB02Z0fffeB02Z0fffeB02Z0fffeB02Z0fffeB02Z0fffe" ++
  "B02Z0fffeB02Z0fffeB02Z0fffeB02Z0fffeB02Z01C11Z01eC160Z080D0f0Z0fe0eB020002"

def table : List Run := runs 2 text

/-- Each version has a code, which is a letter for its first number and a digit for the second. -/
private def code (major minor : Nat) : String :=
  String.ofList [Char.ofNat (0x40 + major), Char.ofNat (0x30 + minor)]

/-- First numbers with the greatest second number that belongs to them. -/
private def lastMinor : List (Nat × Nat) :=
  [(2, 1), (3, 2), (4, 1), (5, 2), (6, 3), (7, 0), (8, 0), (9, 0), (10, 0), (11, 0), (12, 1),
    (13, 0), (14, 0), (15, 1), (16, 0)]

/-- Versions by their two numbers. -/
def versions : List (Nat × Nat) :=
  (1, 1) :: lastMinor.flatMap fun (major, last) => (List.range (last + 1)).map (major, ·)

private def names (major minor : Nat) : List String :=
  [toString major ++ "." ++ toString minor, "v" ++ toString major ++ toString minor]

/-- What was assigned in a version and in those before it. -/
def named? (name : String) : Option CharSet :=
  (versions.find? fun (major, minor) => (names major minor).contains name).map
    fun (major, minor) => select table (· ≤ code major minor)

end SecureChannel.Unicode.Age
