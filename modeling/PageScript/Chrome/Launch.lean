import PageScript.FileTree
import PageScript.Settings
import PageScript.Text.Digits

/-!
# Starting the browser

What the browser is started with: where its executable, its profile and its downloads are, how its
page looks, and the command line that tells it so.
-/

namespace PageScript.Chrome

/-- What a browser is started with. -/
structure LaunchOptions where
  /-- The executable, unless it has to be looked for. -/
  executable : Option Path
  /-- Where the browser keeps its profile. -/
  profile : Path
  downloads : Path
  width : Nat
  height : Nat
  /-- Pixels of the device per pixel of the page. -/
  scale : Float
  locale : String
  ignoreCertificates : Bool
  /-- Whether the browser runs without a window. -/
  headless : Bool

namespace LaunchOptions

/-- The options that settings ask for. -/
def ofSettings (settings : Settings) (executable : Option Path) (work : Path) (headless : Bool) :
    LaunchOptions :=
  { executable := executable
    profile := work.join "profile"
    downloads := work.join "downloads"
    width := settings.width
    height := settings.height
    scale := settings.scale
    locale := settings.locale
    ignoreCertificates := settings.sslCertBypass
    headless := headless }

/-- What every browser is told. -/
def flags : List String :=
  ["--no-sandbox", "--disable-setuid-sandbox", "--disable-dev-shm-usage", "--disable-gpu",
   "--disable-background-networking", "--no-first-run", "--no-default-browser-check",
   "--disable-features=TranslateUI"]

/-- The command line of the browser. -/
def arguments (o : LaunchOptions) : List String :=
  flags
    ++ ["--lang=" ++ o.locale]
    ++ (if o.ignoreCertificates then ["--ignore-certificate-errors"] else [])
    ++ ["--window-size=" ++ String.ofList (Text.decimal o.width) ++ ","
          ++ String.ofList (Text.decimal o.height),
        "--user-data-dir=" ++ o.profile.text]
    ++ (if o.headless then ["--headless"] else [])

end LaunchOptions

end PageScript.Chrome
