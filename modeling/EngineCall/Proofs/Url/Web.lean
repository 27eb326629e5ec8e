import EngineCall.Proofs.Url.Host

/-!
# URLs of the web

Whatever its text looks like, a URL whose scheme is one of the web has a host, and a path of at
least one segment.
-/

namespace EngineCall.Url

/-! ## Paths -/

theorem splitSlashes_ne_nil (kind : Kind) (s : List Char) : splitSlashes kind s ≠ [] := by
  cases s with
  | nil => simp [splitSlashes]
  | cons c rest =>
      rw [splitSlashes]
      split
      next => simp
      next => split <;> simp

/-- A walk ends with a segment, be it an empty one. -/
theorem walk_ne_nil {path : List String} {segments : List (List Char)} (hsegments : segments ≠ []) :
    walk path segments ≠ [] := by
  fun_induction walk path segments with
  | case1 path => exact absurd rfl hsegments
  | case2 path last habove => simp
  | case3 path last habove hhere => simp
  | case4 path last habove hhere => simp
  | case5 path s rest hrest habove ih => exact ih hrest
  | case6 path s rest hrest habove hhere ih => exact ih hrest
  | case7 path s rest hrest habove hhere ih => exact ih hrest

theorem readSegments_ne_nil (kind : Kind) (s : List Char) : readSegments kind s ≠ [] :=
  walk_ne_nil (by simpa using splitSlashes_ne_nil kind s)

/-! ## Authorities -/

/-- What is known of a URL that is read from its authority on. -/
structure AuthorityRead (scheme : String) (kind : Kind) (u : Url) : Prop where
  scheme_eq : u.scheme = scheme
  not_guarded : u.guarded = false
  host : kind = .web → ∃ a host, u.authority = some a ∧ a.host = some host
  path : kind.isSpecial → ∃ segments, u.path = .segments segments ∧ segments ≠ []

theorem authorityRead_of_readAuthority {scheme : String} {kind : Kind} {s : List Char} {u : Url}
    (hread : readAuthority scheme kind s = .ok u) : AuthorityRead scheme kind u := by
  obtain ⟨a, part, pathPart, query, fragment, hhost, rfl⟩ := exists_of_readAuthority hread
  refine ⟨rfl, rfl, ?_, ?_⟩
  · rintro rfl
    obtain ⟨host, hsome⟩ := exists_of_readHost_web hhost
    exact ⟨a, host, rfl, hsome⟩
  · intro hspecial
    refine ⟨_, rfl, ?_⟩
    cases pathPart with
    | nil => simp [segmentsBehind, hspecial]
    | cons c behind => exact readSegments_ne_nil _ _

/-! ## The web -/

theorem scheme_readPathOnly (scheme : String) (s : List Char) :
    (readPathOnly scheme s).scheme = scheme := by
  unfold readPathOnly
  dsimp only
  split <;> rfl

theorem authorityRead_of_parse {text : String} {u : Url} (hparse : parse text = .ok u)
    (hweb : kindOf u.scheme = .web) : AuthorityRead u.scheme .web u := by
  unfold parse at hparse
  split at hparse
  next => cases hparse
  next scheme rest _ =>
    split at hparse
    next =>
      rw [(fileRead_of_readFile hparse).scheme_eq] at hweb
      exact absurd hweb (by decide)
    next =>
      have hparts := authorityRead_of_readAuthority hparse
      exact hparts.scheme_eq ▸ hparts
    next hother =>
      have hscheme : u.scheme = scheme := by
        split at hparse
        next => exact (authorityRead_of_readAuthority hparse).scheme_eq
        next =>
          cases hparse
          exact scheme_readPathOnly _ _
      rw [hscheme, hother] at hweb
      cases hweb

end EngineCall.Url
