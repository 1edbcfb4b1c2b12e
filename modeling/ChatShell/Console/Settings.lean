-- Settings from a TOML file and from `NAME=VALUE` arguments. Keys that mean
-- nothing are passed over; a key with a value of the wrong kind is an error.
import ChatShell.Console.Disk
import ChatShell.Shell
import ChatShell.Toml.Table

namespace ChatShell.Console

open Toml (Entries Value)

/-! ## Reading settings -/

/-- Why there are no settings. -/
inductive SettingsError where
  | reading (path : String) (fault : ReadFault)
  | parsing (path : String)
  deriving DecidableEq

/-- The error in words. -/
def SettingsError.message : SettingsError → String
  | .reading path _ => "reading config " ++ path
  | .parsing path => "parsing config " ++ path

/-- What lies behind the error, if it is known. -/
def SettingsError.cause : SettingsError → Option String
  | .reading _ fault => some fault.message
  | .parsing _ => none

/-- The text of a string value. -/
def text? : Value → Option String
  | .string s => some s
  | _ => none

/-- The variables: a table of strings. A date or time reads as a table with one entry. -/
def varTable? : Value → Option (NameMap String)
  | .table _ entries =>
    (entries.mapM fun e => (text? e.2).map fun v => (e.1, v)).map NameMap.ofList
  | .dateTime d => some (.ofList [("$__toml_private_datetime", d.render)])
  | _ => none

/-- A length: a whole number of 64 bits. -/
def length? : Value → Option Nat
  | .integer n => if 0 ≤ n ∧ n < Nat.pow 2 64 then some n.toNat else none
  | _ => none

/-- The setting under a key, or its default if the key is not given. -/
def setting {α : Type} (entries : Entries) (key : String) (read : Value → Option α)
    (default : α) : Option α :=
  match entries.find? fun e => e.1 == key with
  | none => some default
  | some e => read e.2

/-- The settings in a table. -/
def configOf? (entries : Entries) : Option Config := do
  let vars ← setting entries "variables" varTable? .empty
  let placeholder ← setting entries "placeholder" text? ({} : Config).placeholder
  let limit ← setting entries "max_message_len" (fun v => (length? v).map some) none
  some { vars, placeholder, limit }

/-- The settings in a file. -/
def readConfig (disk : Disk) (path : String) : Except SettingsError Config :=
  match disk.readText path with
  | .error fault => .error (.reading path fault)
  | .ok source =>
    match (Toml.parse? source).bind configOf? with
    | none => .error (.parsing path)
    | some config => .ok config

/-- The settings in the named file, which has to be there, or else in the default one, which need
not be. -/
def loadConfig (disk : Disk) (defaultPath : String) (path : Option String) :
    Except SettingsError Config :=
  match path with
  | some path => readConfig disk path
  | none =>
    match disk defaultPath with
    | .error _ => .ok {}
    | .ok _ => readConfig disk defaultPath

/-! ## `NAME=VALUE` -/

/-- Why a text is no `NAME=VALUE`. -/
inductive PairError where
  | noEquals (text : String)
  | noName (text : String)
  deriving DecidableEq

/-- The error in words. -/
def PairError.message : PairError → String
  | .noEquals text => "expected NAME=VALUE, got " ++ Text.quoted text
  | .noName text => "empty name in " ++ Text.quoted text

/-- Splits a text at its first `=`. -/
def pair (text : String) : Except PairError (String × String) :=
  match text.toList.dropWhile (· ≠ '=') with
  | [] => .error (.noEquals text)
  | _ :: value =>
    match text.toList.takeWhile (· ≠ '=') with
    | [] => .error (.noName text)
    | name => .ok (String.ofList name, String.ofList value)

end ChatShell.Console
