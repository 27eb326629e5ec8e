import EngineCall.Proofs.Results
import EngineCall.Url.Parse
import Mathlib.Logic.Basic

/-!
# Hosts

A host is read before its port, which does not change it. An empty one is refused where there must
be a host, and otherwise told as none; so a host that is told has a text.
-/

namespace EngineCall.Url

/-! ## Texts -/

theorem toText_ipv4_ne_empty (address : UInt32) : (Host.ipv4 address).toText ≠ "" := by
  simp [Host.toText, Ipv4.print, String.append_eq_empty_iff]

theorem toText_ipv6_ne_empty (pieces : List Nat) : (Host.ipv6 pieces).toText ≠ "" := by
  simp [Host.toText, String.append_eq_empty_iff]

theorem toText_domain_ne_empty {name : List Char} (hname : name ≠ []) :
    (Host.domain (String.ofList name)).toText ≠ "" := by
  simpa [Host.toText] using hname

theorem percentEncode_ne_nil {set : CharSet} {s : List Char} (hs : s ≠ []) :
    percentEncode set s ≠ [] := by
  cases s with
  | nil => exact absurd rfl hs
  | cons c rest =>
      have hchar : encodeChar set c ≠ [] := by
        rw [encodeChar]
        split
        next => exact List.cons_ne_nil _ _
        next =>
          cases hbytes : String.utf8EncodeChar c with
          | nil => exact absurd hbytes String.utf8EncodeChar_ne_nil
          | cons b bytes => simp [escapeByte]
      simp [percentEncode, hchar]

/-! ## Reading -/

section

variable {s : List Char} {host : Host}

theorem toText_ne_empty_of_readBracketed (hread : readBracketed s = .ok host) :
    host.toText ≠ "" := by
  unfold readBracketed at hread
  split at hread
  next =>
    split at hread
    next pieces _ =>
      cases hread
      exact toText_ipv6_ne_empty pieces
    next => cases hread
  next => cases hread

theorem toText_ne_empty_of_readDomain (hread : readDomain s = .ok host) : host.toText ≠ "" := by
  unfold readDomain at hread
  split at hread
  next => exact toText_ne_empty_of_readBracketed hread
  next =>
    split at hread
    next => cases hread
    next => cases hread
    next domain hne hascii =>
      split at hread
      next =>
        split at hread
        next address _ =>
          cases hread
          exact toText_ipv4_ne_empty address
        next => cases hread
      next =>
        cases hread
        exact toText_domain_ne_empty (by simpa using hne)

theorem toText_ne_empty_of_readOtherHost (hread : readOtherHost s = .ok (some host)) :
    host.toText ≠ "" := by
  unfold readOtherHost at hread
  split at hread
  next =>
    obtain ⟨host', hread', hsame⟩ := map_eq_ok_iff.mp hread
    cases hsame
    exact toText_ne_empty_of_readBracketed hread'
  next =>
    obtain ⟨-, hread⟩ := ite_error_eq_ok_iff.mp hread
    split at hread
    next => cases hread
    next hne =>
      cases hread
      exact toText_domain_ne_empty (percentEncode_ne_nil (by simpa using hne))

end

/-- The host that an authority tells before its port, if it tells one. -/
def readHost (kind : Kind) (part : List Char) : Except ParseError (Option Host) :=
  if kind = .web then
    if part.isEmpty then .error .emptyHost else (readDomain part).map some
  else readOtherHost part

section

variable {kind : Kind} {part s : List Char} {implied : Option UInt16}

/-- That a host, if there is one, has a text. -/
def HostTold (host : Option Host) : Prop := ∀ h ∈ host, h.toText ≠ ""

theorem hostTold_of_readHost {host : Option Host} (hread : readHost kind part = .ok host) :
    HostTold host := by
  intro h hh
  rw [Option.mem_def.mp hh] at hread
  unfold readHost at hread
  split at hread
  next =>
    obtain ⟨-, hread⟩ := ite_error_eq_ok_iff.mp hread
    obtain ⟨host', hread', hsame⟩ := map_eq_ok_iff.mp hread
    cases hsame
    exact toText_ne_empty_of_readDomain hread'
  next => exact toText_ne_empty_of_readOtherHost hread

theorem readHostAndPort_eq (kind : Kind) (implied : Option UInt16) (s : List Char) :
    readHostAndPort kind implied s = (do
      let host ← readHost kind (splitHost false s).1
      match (splitHost false s).2 with
      | [] => return (host, none)
      | _ :: portPart =>
        if host.isNone then .error .emptyHost
        else
          let port ← readPort implied (portPart.takeWhile (· != '\\'))
          return (host, port)) := by
  unfold readHostAndPort readHost
  cases splitHost false s with
  | mk part behind =>
      cases kind with
      | web => cases part <;> rfl
      | file => rfl
      | other => rfl

theorem readHost_of_readHostAndPort {told : Option Host × Option UInt16}
    (hread : readHostAndPort kind implied s = .ok told) :
    readHost kind (splitHost false s).1 = .ok told.1 := by
  rw [readHostAndPort_eq] at hread
  obtain ⟨host, hhost, hrest⟩ := bind_eq_ok_iff.mp hread
  rw [hhost]
  split at hrest
  next =>
    cases hrest
    rfl
  next =>
    obtain ⟨-, hrest⟩ := ite_error_eq_ok_iff.mp hrest
    obtain ⟨port, -, hrest⟩ := bind_eq_ok_iff.mp hrest
    cases hrest
    rfl

/-- In the web there must be a host. -/
theorem exists_of_readHost_web {host : Option Host} (hread : readHost .web part = .ok host) :
    ∃ h, host = some h := by
  rw [readHost, if_pos rfl] at hread
  obtain ⟨-, hread⟩ := ite_error_eq_ok_iff.mp hread
  obtain ⟨h, -, hsome⟩ := map_eq_ok_iff.mp hread
  exact ⟨h, hsome.symm⟩

end

/-! ## Authorities -/

/-- The segments of a path that stands behind an authority. -/
def segmentsBehind (kind : Kind) : List Char → List String
  | [] => if kind.isSpecial then [""] else []
  | c :: behind => readSegments kind (if isSlash kind c then behind else c :: behind)

/-- What is read from an authority on has an authority, with the host that a part of it tells, and a
path of segments. -/
theorem exists_of_readAuthority {scheme : String} {kind : Kind} {s : List Char} {u : Url}
    (hread : readAuthority scheme kind s = .ok u) :
    ∃ a part pathPart query fragment, readHost kind part = .ok a.host ∧
      u = ⟨scheme, some a, false, .segments (segmentsBehind kind pathPart), query, fragment⟩ := by
  simp only [readAuthority, bind, Except.bind, pure, Except.pure] at hread
  obtain ⟨-, hread⟩ := ite_error_eq_ok_iff.mp hread
  split at hread
  next => cases hread
  next told htold =>
    obtain ⟨-, hread⟩ := ite_error_eq_ok_iff.mp hread
    cases hread
    exact ⟨_, _, _, _, _, readHost_of_readHostAndPort htold, rfl⟩

theorem hostTold_of_readAuthority {scheme : String} {kind : Kind} {s : List Char} {u : Url}
    (hread : readAuthority scheme kind s = .ok u) :
    ∃ a, u.authority = some a ∧ HostTold a.host := by
  obtain ⟨a, part, pathPart, query, fragment, hhost, rfl⟩ := exists_of_readAuthority hread
  exact ⟨a, rfl, hostTold_of_readHost hhost⟩

/-- What is known of the URL of a file. -/
structure FileRead (u : Url) : Prop where
  scheme_eq : u.scheme = "file"
  host : ∃ a, u.authority = some a ∧ HostTold a.host

theorem fileRead_of_readFile {s : List Char} {u : Url} (hread : readFile s = .ok u) :
    FileRead u := by
  have hnone : HostTold none := nofun
  simp only [readFile, bind, Except.bind, pure, Except.pure] at hread
  rcases ite_eq_iff.mp hread with ⟨-, hread⟩ | ⟨-, hread⟩
  · cases hread
    exact ⟨rfl, _, rfl, hnone⟩
  · cases hhost : readDomain _ with
    | error e =>
        rw [hhost] at hread
        cases hread
    | ok host =>
        simp only [hhost] at hread
        rcases ite_eq_iff.mp hread with ⟨-, hread⟩ | ⟨-, hread⟩
        · cases hread
          exact ⟨rfl, _, rfl, hnone⟩
        · cases hread
          refine ⟨rfl, _, rfl, fun h hh => ?_⟩
          cases hh
          exact toText_ne_empty_of_readDomain hhost

theorem authority_readPathOnly (scheme : String) (s : List Char) :
    (readPathOnly scheme s).authority = none := by
  unfold readPathOnly
  dsimp only
  split <;> rfl

/-- No URL that is read has an empty host. -/
theorem hostTold_of_parse {text : String} {u : Url} (hparse : parse text = .ok u) :
    ∀ a ∈ u.authority, HostTold a.host := by
  have htold (h : ∃ a, u.authority = some a ∧ HostTold a.host) :
      ∀ a ∈ u.authority, HostTold a.host := by
    obtain ⟨a, hauthority, htold⟩ := h
    intro b hb
    cases hauthority.symm.trans hb
    exact htold
  unfold parse at hparse
  split at hparse
  next => cases hparse
  next scheme rest _ =>
    split at hparse
    next => exact htold (fileRead_of_readFile hparse).host
    next => exact htold (hostTold_of_readAuthority hparse)
    next =>
      split at hparse
      next => exact htold (hostTold_of_readAuthority hparse)
      next =>
        cases hparse
        rw [authority_readPathOnly]
        exact nofun

end EngineCall.Url
