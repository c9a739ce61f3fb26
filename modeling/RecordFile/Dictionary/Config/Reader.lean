/-
Settings of dictionary handles, read from a JSON text.

The text is an object with the settings by name, or an array with them in order. A setting
that is missing has its default; in an object, members with other names are passed over.
A name given twice, an element too many and a value of the wrong kind are refused.
-/

import RecordFile.Dictionary.Config
import RecordFile.Text.Json

namespace RecordFile.DictionaryConfig

def settingNames : List String :=
  ["map_size", "verbose", "default_form", "stale_grace_secs"]

/-- A form by its name, or as an object whose one member has that name and no value. -/
def form? : Json → Option Form
  | .object [(key, .null)] => do Form.ofName? (String.ofList (← Json.textOf? key))
  | value => do Form.ofName? (← value.string?)

def set? (config : DictionaryConfig) (name : String) (value : Json) : Option DictionaryConfig :=
  match name with
  | "map_size" => value.natural?.map config.withMapSize
  | "verbose" => value.bool?.map config.withVerbose
  | "default_form" => (form? value).map config.withDefaultForm
  | "stale_grace_secs" =>
      value.natural?.map fun seconds => { config with staleGraceSeconds := seconds }
  | _ => none

def ofElements? (config : DictionaryConfig) : List String → List Json → Option DictionaryConfig
  | _, [] => some config
  | [], _ :: _ => none
  | name :: names, value :: values => do
      ofElements? (← config.set? name value) names values

/-- Change settings by name. Those in `seen` may not come again. -/
def ofMembers? (config : DictionaryConfig) (seen : List String) :
    List (List StringPiece × Json) → Option DictionaryConfig
  | [] => some config
  | (key, value) :: rest => do
      let name := String.ofList (← Json.textOf? key)
      if settingNames.contains name then
        if seen.contains name then none
        else ofMembers? (← config.set? name value) (name :: seen) rest
      else ofMembers? config seen rest

def ofJson? : Json → Option DictionaryConfig
  | .object members => ofMembers? {} [] members
  | .array elements => ofElements? {} settingNames elements
  | _ => none

def parse? (text : String) : Option DictionaryConfig := do
  ofJson? (← Json.parse? text)

end RecordFile.DictionaryConfig
