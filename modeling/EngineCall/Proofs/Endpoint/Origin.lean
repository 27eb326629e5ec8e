import EngineCall.Proofs.Endpoint.Redaction
import EngineCall.Proofs.Url.Web

/-!
# What is shown of an endpoint

Of a URL of the web its redacted form keeps the origin, and the fragment, which is not taken away.
So two endpoints of one origin are shown alike exactly if their fragments are the same; user names,
passwords, paths and queries never tell them apart.
-/

namespace EngineCall

/-- Where a URL leads to. -/
structure Origin where
  scheme : String
  host : Option Url.Host
  /-- None for the port that the scheme implies. -/
  port : Option UInt16
  deriving DecidableEq

/-- The URL of an origin and nothing else. -/
def Origin.url (o : Origin) : Url :=
  ⟨o.scheme, some ⟨"", none, o.host, o.port⟩, false, .segments [""], none, none⟩

namespace Url

def origin (u : Url) : Origin := ⟨u.scheme, u.authority.bind (·.host), u.authority.bind (·.port)⟩

/-! ## Fragments -/

theorem toText_with_fragment (u : Url) (fragment : Option String) :
    { u with fragment := fragment }.toText =
      { u with fragment := none }.toText ++ marked "#" fragment := by
  simp [toText, marked]

theorem marked_injective {mark : String} (hmark : mark ≠ "") {a b : Option String}
    (h : marked mark a = marked mark b) : a = b := by
  cases a with
  | none =>
      cases b with
      | none => rfl
      | some b => exact absurd (String.append_eq_empty_iff.mp h.symm).1 hmark
  | some a =>
      cases b with
      | none => exact absurd (String.append_eq_empty_iff.mp h).1 hmark
      | some b => rw [String.append_right_inj mark |>.mp h]

end Url

namespace Endpoint

/-! ## Redaction -/

/-- A URL of the web can always be redacted. -/
theorem redact_of_web {u : Url} (hread : Url.AuthorityRead u.scheme .web u)
    (hweb : Url.kindOf u.scheme = .web) :
    redact u = .ok { u.origin.url with fragment := u.fragment } := by
  obtain ⟨a, host, hauthority, hhost⟩ := hread.host rfl
  obtain ⟨segments, hpath, hsegments⟩ := hread.path rfl
  have hfile : u.scheme ≠ "file" := by
    intro hfile
    rw [hfile] at hweb
    exact absurd hweb (by decide)
  obtain ⟨segment, rest, rfl⟩ := List.exists_cons_of_ne_nil hsegments
  have hredactable : Redactable u := by
    refine ⟨⟨_, hpath⟩, fun b hb => ?_⟩
    cases hauthority.symm.trans hb
    exact ⟨hfile, Option.ne_none_iff_exists'.mpr ⟨host, hhost⟩⟩
  have hbare : u.bare = { u.origin.url with fragment := u.fragment } := by
    rw [Url.origin, Origin.url, Url.bare, Url.front, hauthority, hpath, hread.not_guarded]
    rfl
  rw [redact_of_redactable hredactable, hbare]

theorem redacted_of_web {text : String} {e : Endpoint} (hparse : parse text = .ok e)
    (hweb : Url.kindOf e.full.scheme = .web) :
    e.redacted = { e.full.origin.url with fragment := e.full.fragment } := by
  obtain ⟨u, hu, hendpoint⟩ := bind_eq_ok_iff.mp hparse
  obtain ⟨redacted, hredact, rfl⟩ := map_eq_ok_iff.mp hendpoint
  rw [redact_of_web (Url.authorityRead_of_parse (mapError_eq_ok_iff.mp hu) hweb) hweb] at hredact
  exact (Except.ok.inj hredact).symm

/-- Two endpoints of the web with one origin are shown alike, as texts and in quotes, exactly if
they have the same fragment. -/
theorem shown_alike_iff_same_fragment {s t : String} {e f : Endpoint} (he : parse s = .ok e)
    (hf : parse t = .ok f) (hweb : Url.kindOf e.full.scheme = .web)
    (horigin : e.full.origin = f.full.origin) :
    (e.toText = f.toText ∧ e.describe = f.describe) ↔ e.full.fragment = f.full.fragment := by
  have hscheme : e.full.scheme = f.full.scheme := congrArg Origin.scheme horigin
  have hetext : e.toText = e.full.origin.url.toText ++ Url.marked "#" e.full.fragment := by
    rw [toText, redacted_of_web he hweb, Url.toText_with_fragment]
    rfl
  have hftext : f.toText = e.full.origin.url.toText ++ Url.marked "#" f.full.fragment := by
    rw [toText, redacted_of_web hf (hscheme ▸ hweb), Url.toText_with_fragment, horigin]
    rfl
  constructor
  · rintro ⟨htext, -⟩
    rw [hetext, hftext] at htext
    exact Url.marked_injective (by decide) ((String.append_right_inj _).mp htext)
  · intro hfragment
    have htext : e.toText = f.toText := by rw [hetext, hftext, hfragment]
    exact ⟨htext, congrArg Text.quoted htext⟩

/-- A URL with credentials, a path and a query is shown as the URL is that has none of them. -/
theorem shown_alike_iff_same_fragment_credentials :
    let secret : Url := ⟨"https", some ⟨"user", some "pass", some (.domain "h"), some 8551⟩, false,
      .segments ["key"], some "token=abc", some "top"⟩
    let plain : Url := ⟨"https", some ⟨"", none, some (.domain "h"), some 8551⟩, false,
      .segments [""], none, some "top"⟩
    parse "https://user:pass@h:8551/key?token=abc#top" = .ok ⟨secret, plain⟩ ∧
      parse "https://h:8551/#top" = .ok ⟨plain, plain⟩ ∧
      toText ⟨secret, plain⟩ = toText ⟨plain, plain⟩ ∧
      describe ⟨secret, plain⟩ = describe ⟨plain, plain⟩ := by
  intro secret plain
  have hsecret : parse "https://user:pass@h:8551/key?token=abc#top" = .ok ⟨secret, plain⟩ :=
    toOption_eq_some_iff.mp (by decide +kernel)
  have hplain : parse "https://h:8551/#top" = .ok ⟨plain, plain⟩ :=
    toOption_eq_some_iff.mp (by decide +kernel)
  exact ⟨hsecret, hplain,
    (shown_alike_iff_same_fragment hsecret hplain (by decide) (by decide)).mpr rfl⟩

/-- The origin alone does not say what is shown: fragments tell two endpoints of one origin apart.
-/
theorem not_shown_alike_of_same_origin :
    ¬ ∀ (s t : String) (e f : Endpoint), parse s = .ok e → parse t = .ok f →
      (e.full.scheme = "http" ∨ e.full.scheme = "https") → e.full.origin = f.full.origin →
      e.toText = f.toText ∧ e.describe = f.describe := by
  intro halike
  let url (fragment : String) : Url :=
    ⟨"http", some ⟨"", none, some (.domain "h"), none⟩, false, .segments [""], none, some fragment⟩
  have ha : parse "http://h/#a" = .ok ⟨url "a", url "a"⟩ :=
    toOption_eq_some_iff.mp (by decide +kernel)
  have hb : parse "http://h/#b" = .ok ⟨url "b", url "b"⟩ :=
    toOption_eq_some_iff.mp (by decide +kernel)
  have htext := (halike _ _ _ _ ha hb (.inl rfl) (by decide)).1
  exact absurd htext (by decide +kernel)

end Endpoint

end EngineCall
