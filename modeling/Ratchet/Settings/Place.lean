import Ratchet.Settings.Host

namespace Ratchet

/-!
# Places for files

Each kind of file has a usual place, in the home directory or in one that all
users share.  A variable may name other places, one or several between colons;
an entry that is not absolute is as good as absent.
-/

namespace Host

/-- A kind of place for files. -/
inductive Area where
  | userData
  | userConfig
  | userPreference
  | userCache
  | userState
  | userLog
  | userRuntime
  | userApplications
  | siteData
  | siteConfig
  | siteCache
  | siteState
  | siteLog
  | siteRuntime
  | siteApplications
  deriving DecidableEq

namespace Area

def all : List Area :=
  [.userData, .userConfig, .userPreference, .userCache, .userState, .userLog, .userRuntime,
    .userApplications, .siteData, .siteConfig, .siteCache, .siteState, .siteLog, .siteRuntime,
    .siteApplications]

/-- The name of a kind of place. -/
def name : Area → String
  | .userData => "user_data"
  | .userConfig => "user_config"
  | .userPreference => "user_preference"
  | .userCache => "user_cache"
  | .userState => "user_state"
  | .userLog => "user_log"
  | .userRuntime => "user_runtime"
  | .userApplications => "user_applications"
  | .siteData => "site_data"
  | .siteConfig => "site_config"
  | .siteCache => "site_cache"
  | .siteState => "site_state"
  | .siteLog => "site_log"
  | .siteRuntime => "site_runtime"
  | .siteApplications => "site_applications"

end Area

/-- True of the text of an absolute path. -/
def isAbsoluteText (s : String) : Bool := Text.startsWith s "/"

/-- The place that a variable names, or the usual one. -/
def placeFrom (host : Host) (name usual : String) : String :=
  match host.valueOf? name with
  | some s => if isAbsoluteText s then s else usual
  | none => usual

/-- The places that a variable names between colons, or the usual ones. -/
def placesFrom (host : Host) (name : String) (usual : List String) : List String :=
  let named := (Text.pieces ':' ((host.valueOf? name).getD "")).filter isAbsoluteText
  if named.isEmpty then usual else named

/-- The text of a place with a name after it. -/
def inside (place name : String) : String :=
  if place.endsWith "/" then place ++ name else place ++ "/" ++ name

/-- The places that all users share for what describes programs. -/
def applicationPlaces (host : Host) : List String :=
  (host.placesFrom "XDG_DATA_DIRS" ["/usr/local/share", "/usr/share"]).map fun place =>
    inside place "applications"

/-- The text of the place of a kind for a program, or for all programs if none
is named. -/
def placeText (host : Host) (area : Area) (program : Option String) : String :=
  let home (rest : String) : String := (host.home.join (.ofText rest)).text
  let under (place : String) : String :=
    match program with
    | some name => inside place name
    | none => place
  let first (places : List String) : String := under (places.headD "")
  let data := host.placeFrom "XDG_DATA_HOME" (home ".local/share")
  let config := under (host.placeFrom "XDG_CONFIG_HOME" (home ".config"))
  let state := under (host.placeFrom "XDG_STATE_HOME" (home ".local/state"))
  match area with
  | .userData => under data
  | .userConfig | .userPreference => config
  | .userCache => under (host.placeFrom "XDG_CACHE_HOME" (home ".cache"))
  | .userState => state
  | .userLog => inside state "log"
  | .userRuntime => under (host.placeFrom "XDG_RUNTIME_DIR" "/tmp/runtime-0")
  | .userApplications => inside data "applications"
  | .siteData => first (host.placesFrom "XDG_DATA_DIRS" ["/usr/local/share"])
  | .siteConfig => first (host.placesFrom "XDG_CONFIG_DIRS" ["/etc/xdg"])
  | .siteCache => under "/var/cache"
  | .siteState => under "/var/lib"
  | .siteLog => under "/var/log"
  | .siteRuntime => under (host.placeFrom "XDG_RUNTIME_DIR" "/run")
  | .siteApplications => Text.join ":" host.applicationPlaces

/-- The place of a kind for a program, or for all programs if none is named;
of several places the first. -/
def place (host : Host) (area : Area) (program : Option String) : Path :=
  .ofText (match area with
    | .siteApplications => host.applicationPlaces.headD ""
    | area => host.placeText area program)

end Host

end Ratchet
