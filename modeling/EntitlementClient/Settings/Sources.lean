import EntitlementClient.Settings.Basic
import EntitlementClient.Settings.Environment

/-!
# `EntitlementClient.Settings.Sources`: settings from a file and the environment

Three sources are laid over each other: the defaults, a file, and the environment. What
the text of a file assigns is the matter of its format (`FileFormat`). A file that does
not exist assigns nothing. Loading fails when the file cannot be read in its format, and
when the value that wins for a setting has not the setting's type.
-/

set_option autoImplicit false

namespace EntitlementClient

/-- A format of settings files: what a text assigns, unless the text is no mapping in the
format. -/
abbrev FileFormat := (text : String) → Option Layer

/-- Why settings cannot be loaded. -/
inductive ConfigurationError where
  /-- The file is no mapping in its format. -/
  | file
  /-- The value that wins for a setting has not the setting's type. -/
  | value
deriving DecidableEq, Repr, Inhabited

namespace Settings

/-- What a file assigns. -/
def fileLayer? (format : FileFormat) : Option String → Option Layer
  | none => some .empty
  | some text => format text

/-- The settings that a file, if there is one, and environment variables give. -/
def load (format : FileFormat) (file : Option String) (assignments : List (String × String)) :
    Except ConfigurationError Settings :=
  match fileLayer? format file with
  | none => .error .file
  | some layer =>
    match ofLayers? [layer, Environment.layer assignments] with
    | none => .error .value
    | some s => .ok s

end Settings

end EntitlementClient
