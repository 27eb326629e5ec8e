import EngineCall.Endpoint

/-!
# Redacting a URL

A URL is redacted step by step: the path goes first, then the query, then the user name and the
password. What the steps look at is the kind of the path, the scheme and the host, and none of them
changes these. So the URL alone says which step fails, if one does; the last one never does, and
what is redacted can be redacted again.
-/

namespace EngineCall

namespace Url

/-! ## What is left -/

/-- A path without its segments, if it has some. -/
def Path.cleared : Path → Path
  | .segments (_ :: _) => .segments [""]
  | path => path

def Authority.bare (a : Authority) : Authority := { a with username := "", password := none }

/-- What is left of a URL without its path and query. -/
def front (u : Url) : Url := { u with path := u.path.cleared, query := none }

/-- What is left of a URL without its path, query and credentials. -/
def bare (u : Url) : Url :=
  { u.front with authority := u.authority.map Authority.bare }

@[simp] theorem Path.cleared_cleared (p : Path) : p.cleared.cleared = p.cleared := by
  cases p with
  | rootless s => rfl
  | segments l => cases l <;> rfl

@[simp] theorem bare_bare (u : Url) : u.bare.bare = u.bare := by
  cases hauthority : u.authority <;> simp [bare, front, Authority.bare, hauthority]

variable {u : Url} {a : Authority} {l : List String}

theorem exists_of_mem_bare (ha : a ∈ u.bare.authority) : ∃ b ∈ u.authority, b.bare = a :=
  Option.map_eq_some_iff.mp ha

/-! ## Steps -/

theorem clearPath?_of_segments (hpath : u.path = .segments l) :
    u.clearPath? = some { u with path := u.path.cleared } := by
  cases u with
  | mk scheme authority guarded path query fragment =>
      cases hpath
      cases l <;> rfl

theorem privateAuthority?_eq_some_iff :
    u.privateAuthority? = some a ↔ u.authority = some a ∧ u.scheme ≠ "file" ∧ a.host ≠ none := by
  simp [privateAuthority?, Option.filter_eq_some_iff, Option.isSome_iff_ne_none, and_comm]

end Url

namespace Endpoint

open Url (Authority)

variable {u : Url} {a : Authority} {l : List String}

/-- That nothing stands in the way of redacting a URL. -/
structure Redactable (u : Url) : Prop where
  segments : ∃ l, u.path = .segments l
  credentials : ∀ a ∈ u.authority, u.scheme ≠ "file" ∧ a.host ≠ none

theorem redact_of_rootless {s : String} (hpath : u.path = .rootless s) :
    redact u = .error .rootless := by
  simp [redact, Url.clearPath?, hpath, bind, Except.bind]

/-- Once path and query are gone only the authority is looked at. -/
theorem redact_of_segments (hpath : u.path = .segments l) :
    redact u = (do
      if u.authority.isNone then return u.front
      let v ← u.front.clearUsername?.elim (.error .username) .ok
      v.clearPassword?.elim (.error .password) .ok) := by
  rw [redact, Url.clearPath?_of_segments hpath]
  rfl

theorem redact_of_shut (hpath : u.path = .segments l) (hauthority : u.authority = some a)
    (hshut : u.scheme = "file" ∨ a.host = none) : redact u = .error .username := by
  have hclear : u.front.clearUsername? = none := by
    refine Option.map_eq_none_iff.mpr (Option.eq_none_iff_forall_ne_some.mpr fun b hb => ?_)
    obtain ⟨hsame, hfile, hhost⟩ := Url.privateAuthority?_eq_some_iff.mp hb
    cases hauthority.symm.trans hsame
    cases hshut with
    | inl h => exact hfile h
    | inr h => exact hhost h
  rw [redact_of_segments hpath, hauthority, hclear]
  rfl

theorem redact_of_redactable (h : Redactable u) : redact u = .ok u.bare := by
  obtain ⟨l, hpath⟩ := h.segments
  rw [redact_of_segments hpath]
  cases hauthority : u.authority with
  | none =>
      have hbare : u.bare = u.front := by simp [Url.bare, Url.front, hauthority]
      rw [hbare]
      rfl
  | some a =>
      obtain ⟨hfile, hhost⟩ := h.credentials a hauthority
      -- there is a host to set credentials for, with the user name and without it
      let v : Url := { u.front with authority := some { a with username := "" } }
      have hfirst : u.front.clearUsername? = some v :=
        Option.map_eq_some_iff.mpr
          ⟨a, Url.privateAuthority?_eq_some_iff.mpr ⟨hauthority, hfile, hhost⟩, rfl⟩
      have hsecond : v.clearPassword? = some { v with authority := some a.bare } :=
        Option.map_eq_some_iff.mpr
          ⟨_, Url.privateAuthority?_eq_some_iff.mpr ⟨rfl, hfile, hhost⟩, rfl⟩
      rw [hfirst, Url.bare, hauthority]
      change v.clearPassword?.elim (Except.error Error.password) Except.ok = _
      rw [hsecond]
      rfl

theorem Redactable.bare (h : Redactable u) : Redactable u.bare where
  segments := by
    obtain ⟨l, hpath⟩ := h.segments
    simp only [Url.bare, Url.front, hpath]
    cases l with
    | nil => exact ⟨_, rfl⟩
    | cons first rest => exact ⟨_, rfl⟩
  credentials := by
    intro a ha
    obtain ⟨b, hb, rfl⟩ := Url.exists_of_mem_bare ha
    exact h.credentials b hb

end Endpoint

end EngineCall
