/-! The auth config: `auth.yaml`, its loader, and who is an admin. -/

set_option autoImplicit false

namespace RunnersMux

abbrev Host := String
abbrev Username := String
abbrev Token := String

/-- The host is what a request is checked against; the credentials are not. -/
structure OAuthAppConfig where
  host : Host
  deriving DecidableEq, Repr

/-- A user with admin privileges on a specific host. -/
structure AdminEntry where
  host : Host
  username : Username
  deriving DecidableEq, Repr

structure AuthConfig where
  oauthApps : List OAuthAppConfig
  admins : List AdminEntry
  deriving DecidableEq, Repr

def AuthConfig.isAdmin (cfg : AuthConfig) (username : Username) (host : Host) : Bool :=
  cfg.admins.any fun admin => admin.host = host ∧ admin.username = username

/-- What `os.ReadFile` answers. -/
inductive FileRead (Data : Type) where
  | missing
  | unreadable (text : String)
  | content (data : Data)

section
variable {Data : Type} (unmarshal : Data → Except String AuthConfig)

/-- A missing file is the empty config, every other failure an error. -/
def loadAuthConfig : FileRead Data → Except String AuthConfig
  | .missing => .ok ⟨[], []⟩
  | .unreadable text => .error ("failed to read auth config: " ++ text)
  | .content data =>
      match unmarshal data with
      | .ok cfg => .ok cfg
      | .error text => .error ("failed to parse auth config: " ++ text)

/-- The `authCfg` of `NewApp`, which logs the error and goes on with a nil pointer. -/
def newApp (file : FileRead Data) : Option AuthConfig :=
  match loadAuthConfig unmarshal file with
  | .ok cfg => some cfg
  | .error _ => none

end

end RunnersMux
