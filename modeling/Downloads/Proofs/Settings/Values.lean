import Downloads.Proofs.Text.Reading
import Downloads.Settings
import Mathlib.Data.List.Basic

/-!
# Values of settings

Each key takes values of one kind, and settings hold at most one value under each key
(`Settings.get`, `Settings.set`). A text is read as a value if and only if it denotes the value: a
number may have a sign and zeros before it, and all other values are written in one way
(`SettingKind.parse_eq_ok_iff`).
-/

namespace Downloads

/-! ## Kinds of values -/

/-- What the values of a key are. -/
inductive SettingKind where
  | text
  | verbosity
  | number
  | flag
  | network
  deriving Repr, DecidableEq

namespace SettingKind

/-- The values of a kind. -/
def Value : SettingKind → Type
  | text => String
  | verbosity => Verbosity
  | number => Nat
  | flag => Bool
  | network => NetworkType

instance : (kind : SettingKind) → DecidableEq kind.Value
  | text => inferInstanceAs (DecidableEq String)
  | verbosity => inferInstanceAs (DecidableEq Verbosity)
  | number => inferInstanceAs (DecidableEq Nat)
  | flag => inferInstanceAs (DecidableEq Bool)
  | network => inferInstanceAs (DecidableEq NetworkType)

/-- How a value of the kind is read. -/
def parse : (kind : SettingKind) → List Char → Except ValueFault kind.Value
  | text => Settings.parseQuoted
  | verbosity => Settings.parseVerbosity
  | number => Settings.parseNumber
  | flag => Settings.parseBoolean
  | network => Settings.parseNetworkType

/-- The text between quotes. -/
def quote (t : String) : List Char := '"' :: (t.toList ++ ['"'])

/-- The name of a truth value. -/
def flagName (b : Bool) : String := toString b

/-- The text denotes a number that has 32 bits. -/
def DenotesNumber (s : List Char) (n : Nat) : Prop :=
  Text.Denotes s n ∧ (n : Int) ≤ Settings.maxNumber

/-- How a value of the kind is written. -/
def write : (kind : SettingKind) → kind.Value → List Char
  | text, t => quote t
  | verbosity, v => quote v.name
  | number, n => Text.digits n
  | flag, b => (flagName b).toList
  | network, t => quote t.name

/-- The text is well-formed, and denotes the value. -/
def Denotes : (kind : SettingKind) → List Char → kind.Value → Prop
  | text, s, t => s = quote t
  | verbosity, s, v => s = quote v.name
  | number, s, n => DenotesNumber s n
  | flag, s, b => s = (flagName b).toList
  | network, s, t => s = quote t.name

end SettingKind

namespace SettingKey

/-- What the values of the key are. -/
def kind : SettingKey → SettingKind
  | .dbPath | .labelQueued | .labelRunning | .labelError | .rootTitle => .text
  | .verbosity => .verbosity
  | .dbMaxConnections | .dbBusyTimeoutMs | .retryBaseDelaySecs => .number
  | .networkAvailable | .networkRoaming => .flag
  | .networkType => .network

theorem mem_all (k : SettingKey) : k ∈ all := by cases k <;> decide

end SettingKey

/-- A key with a value for it. -/
abbrev Assignment := (k : SettingKey) × k.kind.Value

/-! ## Settings by key -/

namespace Settings

/-- The value under a key. -/
def get (c : Settings) : (k : SettingKey) → Option k.kind.Value
  | .dbPath => c.dbPath
  | .verbosity => c.verbosity
  | .dbMaxConnections => c.dbMaxConnections
  | .dbBusyTimeoutMs => c.dbBusyTimeoutMs
  | .retryBaseDelaySecs => c.retryBaseDelaySecs
  | .labelQueued => c.labelQueued
  | .labelRunning => c.labelRunning
  | .labelError => c.labelError
  | .rootTitle => c.rootTitle
  | .networkAvailable => c.networkAvailable
  | .networkRoaming => c.networkRoaming
  | .networkType => c.networkType

/-- The settings with a value put under a key. -/
def set (c : Settings) : (k : SettingKey) → k.kind.Value → Settings
  | .dbPath, v => { c with dbPath := some v }
  | .verbosity, v => { c with verbosity := some v }
  | .dbMaxConnections, v => { c with dbMaxConnections := some v }
  | .dbBusyTimeoutMs, v => { c with dbBusyTimeoutMs := some v }
  | .retryBaseDelaySecs, v => { c with retryBaseDelaySecs := some v }
  | .labelQueued, v => { c with labelQueued := some v }
  | .labelRunning, v => { c with labelRunning := some v }
  | .labelError, v => { c with labelError := some v }
  | .rootTitle, v => { c with rootTitle := some v }
  | .networkAvailable, v => { c with networkAvailable := some v }
  | .networkRoaming, v => { c with networkRoaming := some v }
  | .networkType, v => { c with networkType := some v }

theorem get_empty (k : SettingKey) : get {} k = none := by cases k <;> rfl

theorem get_set_self (c : Settings) (k : SettingKey) (v : k.kind.Value) :
    (c.set k v).get k = some v := by
  cases k <;> rfl

theorem get_set_of_ne (c : Settings) {k k' : SettingKey} (v : k.kind.Value) (h : k' ≠ k) :
    (c.set k v).get k' = c.get k' := by
  cases k <;> cases k' <;> first | rfl | exact absurd rfl h

/-- Settings are the values under their keys. -/
theorem ext_get {c c' : Settings} (h : ∀ k, c.get k = c'.get k) : c = c' := by
  rcases c with ⟨⟩
  rcases c' with ⟨⟩
  rw [mk.injEq]
  exact ⟨h .dbPath, h .verbosity, h .dbMaxConnections, h .dbBusyTimeoutMs, h .retryBaseDelaySecs,
    h .labelQueued, h .labelRunning, h .labelError, h .rootTitle, h .networkAvailable,
    h .networkRoaming, h .networkType⟩

/-- The values, each with its key. -/
def assignments (c : Settings) : List Assignment :=
  SettingKey.all.filterMap fun k => (c.get k).map (Sigma.mk k)

theorem mem_assignments {c : Settings} {k : SettingKey} {v : k.kind.Value} :
    ⟨k, v⟩ ∈ c.assignments ↔ c.get k = some v := by
  simp only [assignments, List.mem_filterMap, Option.map_eq_some_iff]
  constructor
  · rintro ⟨k', -, v', hv, heq⟩
    cases heq
    exact hv
  · exact fun hv => ⟨k, k.mem_all, v, hv, rfl⟩

/-- Assigning reads a value and puts it under the key. -/
theorem assign_eq (c : Settings) (k : SettingKey) (s : List Char) :
    c.assign k s = (k.kind.parse s).map (c.set k) := by
  cases k <;> rfl

end Settings

/-! ## Reading values -/

/-- A name is found among all names if there is a case of that name. -/
theorem find?_name_eq_some_iff {α : Type} {all : List α} {name : α → String}
    (h : ∀ a, (all.find? fun x => name x == name a) = some a) {s : String} {a : α} :
    (all.find? fun x => name x == s) = some a ↔ name a = s := by
  constructor
  · intro hfind
    simpa using List.find?_some hfind
  · rintro rfl
    exact h a

theorem SettingKey.ofName?_eq_some_iff {s : String} {k : SettingKey} :
    ofName? s = some k ↔ k.name = s := find?_name_eq_some_iff ofName?_name

theorem Verbosity.ofName?_eq_some_iff {s : String} {v : Verbosity} :
    ofName? s = some v ↔ v.name = s :=
  find?_name_eq_some_iff fun v => by cases v <;> decide

theorem NetworkType.ofName?_eq_some_iff {s : String} {t : NetworkType} :
    ofName? s = some t ↔ t.name = s := find?_name_eq_some_iff ofName?_name

namespace Settings

variable {s : List Char}

open SettingKind (quote flagName DenotesNumber)

theorem parseQuoted_eq_ok_iff {t : String} : parseQuoted s = .ok t ↔ s = quote t := by
  unfold parseQuoted
  split
  · rename_i s
    rw [quote, List.cons.injEq]
    split
    · rename_i hlast
      obtain ⟨init, rfl⟩ := List.getLast?_eq_some_iff.mp hlast
      simp [← String.toList_inj]
    · rename_i hlast
      constructor
      · exact nofun
      · rintro ⟨-, rfl⟩
        simp at hlast
  · rename_i hquote
    constructor
    · exact nofun
    · exact fun h => absurd h (hquote _)

/-- A case is read of its name between quotes. -/
theorem named_eq_ok_iff {α : Type} {ofName? : String → Option α} {name : α → String}
    (hname : ∀ {t a}, ofName? t = some a ↔ name a = t) (fault : String → ValueFault) {a : α} :
    ((parseQuoted s).bind fun t => (ofName? t).elim (.error (fault t)) .ok) = .ok a ↔
      s = quote (name a) := by
  rw [← parseQuoted_eq_ok_iff]
  rcases parseQuoted s with e | t
  · exact ⟨nofun, nofun⟩
  · rw [Except.ok.injEq, eq_comm (a := t), ← hname, Except.bind]
    cases ofName? t <;> simp

theorem parseVerbosity_eq_ok_iff {v : Verbosity} : parseVerbosity s = .ok v ↔ s = quote v.name := by
  rw [← named_eq_ok_iff Verbosity.ofName?_eq_some_iff fun _ => .unknownVerbosity, parseVerbosity]
  rcases parseQuoted s with e | t
  · rfl
  · simp only [bind, Except.bind]
    cases Verbosity.ofName? t <;> rfl

theorem parseNetworkType_eq_ok_iff {t : NetworkType} :
    parseNetworkType s = .ok t ↔ s = quote t.name := by
  rw [← named_eq_ok_iff NetworkType.ofName?_eq_some_iff .unknownNetworkType, parseNetworkType]
  rcases parseQuoted s with e | name
  · rfl
  · simp only [bind, Except.bind]
    cases NetworkType.ofName? name <;> rfl

theorem parseBoolean_eq_ok_iff {b : Bool} : parseBoolean s = .ok b ↔ s = (flagName b).toList := by
  have htrue : (flagName true).toList = "true".toList := rfl
  have hfalse : (flagName false).toList = "false".toList := rfl
  unfold parseBoolean
  split
  · rename_i hs
    cases b <;> simp [hs, htrue, hfalse]
  split
  · rename_i hs
    cases b <;> simp [hs, htrue, hfalse]
  · rename_i hnottrue hnotfalse
    cases b with
    | true => exact ⟨nofun, fun h => absurd h hnottrue⟩
    | false => exact ⟨nofun, fun h => absurd h hnotfalse⟩

theorem parseNumber_eq_ok_iff {n : Nat} : parseNumber s = .ok n ↔ DenotesNumber s n := by
  have hmax : maxNumber < Nat.pow 2 (128 - 1) := by decide
  have hmin : -(Nat.pow 2 (128 - 1) : Int) ≤ 0 := by decide
  unfold parseNumber DenotesNumber
  constructor
  · intro h
    split at h
    · cases h
    split at h
    · cases h
    rename_i i hi
    split at h
    · cases h
    rename_i hpos
    split at h <;> cases h
    rename_i hle
    have hcast : ((i.toNat : Nat) : Int) = i := Int.toNat_of_nonneg (by omega)
    rw [hcast]
    exact ⟨(Text.parseInteger_eq_ok_iff.mp hi).1, by omega⟩
  · rintro ⟨hs, hle⟩
    have hi : Text.parseInteger 128 s = .ok n :=
      Text.parseInteger_eq_ok_iff.mpr ⟨hs, by omega, by omega⟩
    have hempty : s.isEmpty = false := by
      cases s with
      | nil => cases hi
      | cons => rfl
    simp only [hempty, hi]
    rw [if_neg nofun, if_neg (by omega), if_neg (by omega)]
    rfl

end Settings

namespace SettingKind

open Settings

/-- A value is read of the texts that denote it, and of no others. -/
theorem parse_eq_ok_iff {kind : SettingKind} {s : List Char} {v : kind.Value} :
    kind.parse s = .ok v ↔ kind.Denotes s v := by
  cases kind with
  | text => exact parseQuoted_eq_ok_iff
  | verbosity => exact parseVerbosity_eq_ok_iff
  | number => exact parseNumber_eq_ok_iff
  | flag => exact parseBoolean_eq_ok_iff
  | network => exact parseNetworkType_eq_ok_iff

end SettingKind

/-! ## Writing values -/

namespace Settings

/-- The character is no blank, and no sign that means something in a line. -/
def isBare (c : Char) : Bool :=
  !Text.isBlank c && c != '"' && c != '#' && c != '=' && c != '\n'

theorem isBlank_of_isBare {c : Char} (h : isBare c = true) : Text.isBlank c = false := by
  simp only [isBare, Bool.and_eq_true, Bool.not_eq_true'] at h
  exact h.1.1.1.1

theorem isBare_of_isDigit {c : Char} (h : c.isDigit = true) : isBare c = true := by
  have hne : ∀ {sign : Char}, sign.isDigit = false → c ≠ sign := by
    rintro sign hsign rfl
    rw [h] at hsign
    cases hsign
  simp [isBare, Text.isBlank_of_isDigit h, hne]

end Settings

namespace SettingKind

open Settings

/-- A text can stand between quotes on one line. -/
def Plain : (kind : SettingKind) → kind.Value → Prop
  | text, t => '"' ∉ String.toList t ∧ '\n' ∉ String.toList t
  | verbosity, _ | number, _ | flag, _ | network, _ => True

instance : (kind : SettingKind) → DecidablePred kind.Plain
  | text => fun _ => instDecidableAnd
  | verbosity | number | flag | network => fun _ => instDecidableTrue

/-- A number has 32 bits. -/
def Fits : (kind : SettingKind) → kind.Value → Prop
  | number, n => Int.ofNat n ≤ maxNumber
  | text, _ | verbosity, _ | flag, _ | network, _ => True

/-- A value is denoted by what is written for it. -/
theorem denotes_write {kind : SettingKind} {v : kind.Value} (h : kind.Fits v) :
    kind.Denotes (kind.write v) v := by
  cases kind with
  | text | verbosity | flag | network => rfl
  | number => exact ⟨.plain (Text.isNumeral_digits v), h⟩

/-- Values are written between quotes, or else without any blanks and signs. -/
theorem write_cases {kind : SettingKind} {v : kind.Value} (h : kind.Plain v) :
    (∃ t : String, kind.write v = quote t ∧ '"' ∉ t.toList ∧ '\n' ∉ t.toList) ∨
      kind.write v ≠ [] ∧ ∀ c ∈ kind.write v, isBare c = true := by
  cases kind with
  | text => exact .inl ⟨v, rfl, h⟩
  | verbosity => exact .inl ⟨_, rfl, by cases v <;> decide⟩
  | network => exact .inl ⟨_, rfl, by cases v <;> decide⟩
  | flag => exact .inr ⟨by cases v <;> decide, List.all_eq_true.mp (by cases v <;> decide)⟩
  | number =>
    have hdigits := Text.isNumeral_digits v
    exact .inr ⟨hdigits.nonempty, fun c hc => isBare_of_isDigit (hdigits.digits c hc)⟩

end SettingKind

namespace Settings

variable {c : Settings}

theorem le_of_checkRange {key : SettingKey} {low high n : Nat} {o : Option Nat}
    (h : checkRange key low high o = .ok ()) (ho : o = some n) : n ≤ high := by
  subst ho
  simp only [checkRange] at h
  split at h
  · rename_i hrange
    exact hrange.2
  · cases h

/-- Two checks pass if each of them does. -/
theorem then_eq_ok_iff {x y : Except SettingsError Unit} :
    (x >>= fun _ => y) = .ok () ↔ x = .ok () ∧ y = .ok () := by
  rcases x with e | ⟨⟩ <;> simp [bind, Except.bind]

/-- Numbers in their ranges have 32 bits. -/
theorem fits_of_validate (h : c.validate = .ok ()) {k : SettingKey} {v : k.kind.Value}
    (hv : c.get k = some v) : k.kind.Fits v := by
  simp only [validate, then_eq_ok_iff] at h
  obtain ⟨hconnections, htimeout, hdelay, -⟩ := h
  have hfits : ∀ {n high : Nat}, n ≤ high → high ≤ 120000 → Int.ofNat n ≤ maxNumber := by
    intro n high hn hhigh
    have hmax : maxNumber = 4294967295 := rfl
    rw [hmax, Int.ofNat_eq_natCast]
    omega
  cases k with
  | dbMaxConnections => exact hfits (le_of_checkRange hconnections hv) (by decide)
  | dbBusyTimeoutMs => exact hfits (le_of_checkRange htimeout hv) (by decide)
  | retryBaseDelaySecs => exact hfits (le_of_checkRange hdelay hv) (by decide)
  | _ => exact trivial

end Settings

end Downloads
