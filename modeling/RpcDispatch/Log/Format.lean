/-
This file defines the formats of the log.
-/

import RpcDispatch.Json.Choice

namespace RpcDispatch.Log

inductive Format where
  | json
  | compact
  deriving DecidableEq

namespace Format

def all : List Format :=
  [.json, .compact]

def standard : Format :=
  .json

def name : Format → String
  | .json => "json"
  | .compact => "compact"

/-- The case of ASCII letters does not matter. -/
def parse? (text : String) : Option Format :=
  all.find? fun format => text.toList.map Char.toLower = format.name.toList

/-- The refusal of a text that names no format. -/
def unknown : String :=
  "Matching variant not found"

def chars (format : Format) : List Char :=
  Json.stringChars format.name

def decoder : Json.Decoder Format :=
  .choice (all.map fun format => (format.name, format))

end Format

end RpcDispatch.Log
