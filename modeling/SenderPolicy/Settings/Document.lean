/-
Settings in a TOML document.

A document names some of the settings; the others keep their values.  A name that is no setting
makes the whole document invalid.  Where the settings of the resolver are wanted, an array of all
of them in order will do as well.
-/
import SenderPolicy.Settings.Values
import SenderPolicy.Toml.Statement

namespace SenderPolicy

/-- The settings of the resolver in a document. -/
structure ResolverDocument where
  backend : Option Backend
  fallbackOrder : Option (List Backend)
  timeoutMs : Option Nat
  nameservers : Option (List String)
  googleUrl : Option String
  cloudflareUrl : Option String
  deriving DecidableEq, Repr

/-- The settings in a document. -/
structure SettingsDocument where
  bindAddress : Option String
  requestTimeoutSecs : Option Nat
  resolver : Option ResolverDocument
  deriving DecidableEq, Repr

namespace Toml

/-- Wants a text. -/
def text? : Toml → Option String
  | text s => some s
  | _ => none

/-- Wants a natural number. -/
def natural? : Toml → Option Nat
  | integer n => if 0 ≤ n then some n.toNat else none
  | _ => none

/-- Wants an array. -/
def list? {α : Type} (item? : Toml → Option α) : Toml → Option (List α)
  | array items => items.mapM item?
  | _ => none

/-- Whether a value is an empty table or an empty array. -/
def isEmpty : Toml → Bool
  | array [] => true
  | table [] => true
  | _ => false

/-- Wants the name of a backend, as a text or as the only name in a table, with nothing in its
value. -/
def backend? : Toml → Option Backend
  | text s => Backend.ofName? s
  | table [(name, v)] => if v.isEmpty then Backend.ofName? name else none
  | _ => none

/-- The value of a field in a table that has none but the given names, or in an array of all of
them. -/
def fields? (names : List String) : Toml → Option (String → Option Toml)
  | table members =>
    if members.all fun m => names.contains m.1 then some fun name => members.lookup name else none
  | array items =>
    if names.length ≤ items.length then some fun name => (names.zip items).lookup name else none
  | _ => none

end Toml

namespace ResolverDocument

/-- The names of the settings of the resolver, in order. -/
def names : List String :=
  ["backend", "fallback_order", "timeout_ms", "upstream_servers", "google_doh_url",
    "cloudflare_doh_url"]

/-- The settings of the resolver in a TOML value. -/
def ofToml? (v : Toml) : Option ResolverDocument := do
  let get ← Toml.fields? names v
  return {
    backend := ← (get "backend").mapM Toml.backend?
    fallbackOrder := ← (get "fallback_order").mapM (Toml.list? Toml.backend?)
    timeoutMs := ← (get "timeout_ms").mapM Toml.natural?
    nameservers := ← (get "upstream_servers").mapM (Toml.list? Toml.text?)
    googleUrl := ← (get "google_doh_url").mapM Toml.text?
    cloudflareUrl := ← (get "cloudflare_doh_url").mapM Toml.text? }

end ResolverDocument

namespace SettingsDocument

/-- The names of the settings, in order. -/
def names : List String := ["http_bind_addr", "request_timeout_secs", "resolver"]

/-- The settings in a TOML text. -/
def read? (text : String) : Option SettingsDocument := do
  let members ← Toml.read? text
  let get ← Toml.fields? names (.table members)
  return {
    bindAddress := ← (get "http_bind_addr").mapM Toml.text?
    requestTimeoutSecs := ← (get "request_timeout_secs").mapM Toml.natural?
    resolver := ← (get "resolver").mapM ResolverDocument.ofToml? }

end SettingsDocument

namespace Settings

/-- Sets something if there is a value for it. -/
def setWith {α : Type} (value : Option α) (set : Settings → α → Settings) : SettingsUpdate :=
  match value with
  | none => pure ()
  | some a => modify fun s => set s a

/-- Sets something if there is a text for it, which must be readable. -/
def readWith {α β : Type} (read : α → Except SettingsError β) (value : Option α)
    (set : Settings → β → Settings) : SettingsUpdate :=
  match value with
  | none => pure ()
  | some a =>
    match read a with
    | .ok b => modify fun s => set s b
    | .error e => throw e

/-- Takes over the settings of the resolver in a document. -/
def takeResolver (d : ResolverDocument) : SettingsUpdate := do
  setWith d.backend fun s b => { s with backend := b }
  setWith d.fallbackOrder fun s order => { s with fallbackOrder := order }
  setWith d.timeoutMs fun s ms => { s with timeoutMs := ms }
  readWith (fun servers => servers.mapM readNameserver) d.nameservers fun s servers =>
    { s with nameservers := some servers }
  setWith d.googleUrl fun s url => { s with googleUrl := url }
  setWith d.cloudflareUrl fun s url => { s with cloudflareUrl := url }

/-- Takes over the settings in a document. -/
def takeDocument (d : SettingsDocument) : SettingsUpdate := do
  readWith readBindAddress d.bindAddress fun s a => { s with bindAddress := a }
  setWith d.requestTimeoutSecs fun s secs => { s with requestTimeoutMs := secs * 1000 }
  match d.resolver with
  | none => pure ()
  | some r => takeResolver r

/-- Takes over the settings in a TOML text. -/
def takeText (text : String) : SettingsUpdate :=
  match SettingsDocument.read? text with
  | none => throw .invalidDocument
  | some d => takeDocument d

end Settings

end SenderPolicy
