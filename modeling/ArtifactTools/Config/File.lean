import ArtifactTools.Config

/-! The file that keeps the configuration. A file that is not there stands for the defaults. -/

namespace ArtifactTools.Config

/-- Where a user's configuration files are; a relative `XDG_CONFIG_HOME` says nothing. -/
def configDirectory (host : Host) : Path :=
  let fallback := host.homeDirectory.join (Path.ofString ".config")
  match host.octetsOf? "XDG_CONFIG_HOME" with
  | none => fallback
  | some place => if (Path.mk place).isAbsolute then ⟨place⟩ else fallback

def defaultPath (host : Host) : Path :=
  ((configDirectory host).join (Path.ofString "helios")).join (Path.ofString "config.json")

def load (host : Host) (path : Path) : Except ConfigError Config :=
  match host.read path with
  | .error cause => .error (.read path cause)
  | .ok octets =>
      match Utf8.decode? octets with
      | none => .error (.read path .notUtf8)
      | some text =>
          match parse? text with
          | none => .error (.parse path .malformed)
          | some config => .ok config

def loadOrDefault (host : Host) (path : Option Path) : Except ConfigError Config :=
  let path := path.getD (defaultPath host)
  if host.holds path then load host path else .ok default

/-- Writes the file, after the directories above it, which stay even if the file cannot be
written. -/
def save (config : Config) (host : Host) (path : Path) : Except ConfigError Unit × Host :=
  let (prepared, host) : Except HostError Unit × Host :=
    match path.parent? with
    | none => (.ok (), host)
    | some parent => host.makeDirectories parent
  match prepared with
  | .error cause => (.error (.write path cause), host)
  | .ok () =>
      match host.write path (Utf8.encode config.text) with
      | .error cause => (.error (.write path cause), host)
      | .ok host => (.ok (), host)

end ArtifactTools.Config
