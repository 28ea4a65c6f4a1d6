import GitGateway.Fault
import GitGateway.Settings.Document
import GitGateway.Settings.Problem
import GitGateway.Text.Utf8
import GitGateway.Toml.Statement

/-!
# Loading settings

From the text or the octets of a settings file to settings without problems, or
to the reason why there are none.
-/

namespace GitGateway.Settings

/-- Why a file has no text. -/
inductive FileError where
  | system (fault : SystemFault)
  /-- The octets are not UTF-8. -/
  | notText
  deriving DecidableEq, Repr

/-- A file error in words. -/
def FileError.message : FileError → String
  | .system fault => fault.text
  | .notText => "stream did not contain valid UTF-8"

/-- Why there are no settings. -/
inductive LoadError where
  | file (error : FileError)
  /-- The text is no settings document. -/
  | malformed
  | invalid (problems : List Problem)
  deriving DecidableEq, Repr

/-- The settings of a text, if they have no problems. -/
def ofText (text : String) : Except LoadError Settings :=
  match (Toml.Document.read? text).bind ofDocument? with
  | none => .error .malformed
  | some settings =>
    match settings.problems with
    | [] => .ok settings
    | problems => .error (.invalid problems)

/-- Settings are given out where they are those of the document and have no problems. -/
theorem ofText_eq_ok_iff {text : String} {settings : Settings} :
    ofText text = .ok settings ↔
      (Toml.Document.read? text).bind ofDocument? = some settings ∧ settings.problems = [] := by
  rw [ofText]
  cases (Toml.Document.read? text).bind ofDocument? with
  | none =>
    constructor
    · nofun
    · rintro ⟨⟨⟩, _⟩
  | some found =>
    cases told : found.problems with
    | nil =>
      simp only [told]
      constructor
      · rintro ⟨⟩
        exact ⟨rfl, told⟩
      · rintro ⟨⟨⟩, _⟩
        rfl
    | cons first rest =>
      simp only [told]
      constructor
      · nofun
      · rintro ⟨⟨⟩, empty⟩
        cases told.symm.trans empty

/-- The settings of a file: its octets, or what the system said when it was read. -/
def ofFile (content : Except SystemFault Bytes) : Except LoadError Settings :=
  match content with
  | .error fault => .error (.file (.system fault))
  | .ok octets =>
    match Utf8.decode? octets with
    | none => .error (.file .notText)
    | some text => ofText text

end GitGateway.Settings
