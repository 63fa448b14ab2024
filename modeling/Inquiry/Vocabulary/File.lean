import Inquiry.Settings
import Inquiry.Vocabulary.Bundled
import Inquiry.Vocabulary.Reader
import Inquiry.Yaml.Document

/-!
# Vocabulary files

A vocabulary is loaded from a YAML file: from the path that is asked for, or
else from the path of the settings.  Without either the bundled vocabulary is
used, and no file is read.
-/

namespace Inquiry

/-- The fault of a text that cannot be read as YAML. -/
def Fault.ofYamlError : Yaml.ReadError → Fault
  | .malformed => malformedYaml
  | .malformedInteger base given => malformedInteger base given
  | .integerTooLong digits => integerTooLong digits

namespace Vocabulary

/-- Reads a vocabulary from the text of a YAML file. -/
def ofYaml (text : Text) : Except Fault Vocabulary := do
  read (← (Yaml.parse text).mapError Fault.ofYamlError)

/-- The path that a vocabulary is loaded from; empty for the bundled one.  The
settings are consulted only if no path is given. -/
def path (settings : Except Fault Settings) (given : Text) : Except Fault Text :=
  if given.isEmpty then settings.map (·.vocabularyPath) else .ok given

/-- Loads a vocabulary, given the texts of the files that exist. -/
def load (file? : Text → Option Text) (settings : Except Fault Settings)
    (given : Text) : Except Fault Vocabulary := do
  let path ← path settings given
  if path.isEmpty then return bundled
  else
    match file? path with
    | some text => ofYaml text
    | none => throw .fileNotFound

end Vocabulary

end Inquiry
