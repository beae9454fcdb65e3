/-!
# TOML values

A value of TOML 1.0 as a tree. Floats keep their spelling, since nothing is computed with them, and
dates and times are kept as the text that writes them in full.
-/

namespace HeaderBindings

inductive Toml where
  | string (s : String)
  | integer (n : Int64)
  | float (spelling : String)
  | boolean (b : Bool)
  | datetime (text : String)
  | array (elems : List Toml)
  | table (entries : List (String × Toml))
  deriving Repr

namespace Toml

def string? : Toml → Option String
  | string s => some s
  | _ => none

def boolean? : Toml → Option Bool
  | boolean b => some b
  | _ => none

def elems? : Toml → Option (List Toml)
  | array elems => some elems
  | _ => none

def get? (t : Toml) (key : String) : Option Toml :=
  match t with
  | table entries => entries.lookup key
  | _ => none

end Toml

end HeaderBindings
