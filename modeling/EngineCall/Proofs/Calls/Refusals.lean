import EngineCall.Proofs.Calls.Construction
import EngineCall.Proofs.Results
import Mathlib.Data.List.Induction

/-!
# The defect that is told of declarations

Of all that is wrong with a list of declarations one defect is told. The declarations are taken in
the order of the list, and the first one that those before it do not admit decides: it is told of a
wire version of another method if it names one, and otherwise of the way in which it collides with
what was accepted of its method. That a method is left out is told only of declarations that agree
with each other, and of the first such method.
-/

namespace EngineCall

/-! ## The order of methods -/

namespace Method

theorem all_ascending : all.Pairwise (·.order < ·.order) := by decide

/-- The methods in front of one are those of a lower order. -/
theorem mem_front_iff {front back : List Method} {a m : Method} (hall : all = front ++ m :: back) :
    a ∈ front ↔ a.order < m.order :=
  mem_front_iff_of_pairwise (r := InvImage (· < ·) order) (hall ▸ all_ascending) (hall ▸ mem_all a)

/-- A search through all methods finds the one of the lowest order. -/
theorem find?_all_eq_some_iff {p : Method → Bool} {m : Method} :
    all.find? p = some m ↔ p m = true ∧ ∀ n, n.order < m.order → p n = false := by
  rw [List.find?_eq_some_iff_append]
  refine and_congr_right fun _ => ?_
  constructor
  · rintro ⟨front, back, hall, hfront⟩ n hlt
    simpa using hfront n ((mem_front_iff hall).mpr hlt)
  · intro hlower
    obtain ⟨front, back, hall⟩ := List.append_of_mem (mem_all m)
    refine ⟨front, back, hall, fun n hn => ?_⟩
    simp [hlower n ((mem_front_iff hall).mp hn)]

end Method

/-! ## Wording -/

theorem Method.name_injective : Function.Injective Method.name := by
  intro m n hname
  cases m <;> cases n <;> simp_all [Method.name]

theorem Milestone.name_injective : Function.Injective Milestone.name := by
  intro a b hname
  cases a <;> cases b <;> simp_all [Milestone.name]

namespace CatalogDefect

/-- The method that a defect is about. -/
def method : CatalogDefect → Method
  | .otherMethod m | .invariantTwice m | .mixed m | .milestoneTwice m _ | .undeclared m => m

/-- What is said of the method. -/
def verdict : CatalogDefect → String
  | .otherMethod _ => " declared with an implementation of another method"
  | .invariantTwice _ => " declared fork-invariant twice"
  | .mixed _ => " declared both fork-invariant and versioned"
  | .milestoneTwice _ _ => " declared twice for milestone "
  | .undeclared _ => " has no declared implementation"

/-- What the verdict is said for. -/
def scope : CatalogDefect → String
  | .milestoneTwice _ a => a.name
  | _ => ""

theorem message_eq (defect : CatalogDefect) :
    defect.message = defect.method.name ++ (defect.verdict ++ defect.scope) := by
  cases defect with
  | milestoneTwice m a => exact String.append_assoc ..
  | otherMethod | invariantTwice | mixed | undeclared =>
      simp only [scope, String.append_empty]
      rfl

/-- The letter by which a verdict is told from the others. -/
def initial : CatalogDefect → Char
  | .otherMethod _ => 'w'
  | .invariantTwice _ => 'f'
  | .mixed _ => 'b'
  | .milestoneTwice _ _ => 't'
  | .undeclared _ => 'c'

theorem head?_verdict (defect : CatalogDefect) : defect.verdict.toList.head? = some ' ' := by
  cases defect <;> exact (congrArg List.head? String.toList_ofList).trans rfl

theorem getElem?_verdict (defect : CatalogDefect) :
    defect.verdict.toList[10]? = some defect.initial := by
  cases defect <;> exact (congrArg (·[10]?) String.toList_ofList).trans rfl

/-- The name of the method ends where the verdict begins with a blank. -/
theorem takeWhile_message (defect : CatalogDefect) :
    defect.message.toList.takeWhile (· ≠ ' ') = defect.method.name.toList := by
  have hname (m : Method) : ∀ c ∈ m.name.toList, decide (c ≠ ' ') = true := by
    refine List.all_eq_true.mp ?_
    cases m <;> exact (congrArg (List.all · (· ≠ ' ')) String.toList_ofList).trans rfl
  obtain ⟨letters, hletters⟩ := List.head?_eq_some_iff.mp defect.head?_verdict
  rw [message_eq, String.toList_append, List.takeWhile_append_of_pos (hname _),
    String.toList_append, hletters]
  simp

/-- No two defects are told in the same words. -/
theorem message_injective : Function.Injective message := by
  intro defect defect' hmessage
  have hnames := defect.takeWhile_message
  rw [hmessage, takeWhile_message, String.toList_inj] at hnames
  have hmethod : defect'.method = defect.method := Method.name_injective hnames
  rw [message_eq, message_eq, hmethod, String.append_right_inj] at hmessage
  have hinitial (d : CatalogDefect) : (d.verdict ++ d.scope).toList[10]? = some d.initial := by
    rw [String.toList_append, List.getElem?_append_left, d.getElem?_verdict]
    exact (List.getElem?_eq_some_iff.mp d.getElem?_verdict).1
  have hsame := hinitial defect
  rw [hmessage, hinitial, Option.some.injEq] at hsame
  cases defect <;> cases defect' <;> cases hsame <;> cases hmethod
  case milestoneTwice.milestoneTwice.refl.refl =>
    rw [verdict, verdict, String.append_right_inj] at hmessage
    rw [Milestone.name_injective hmessage]
  all_goals rfl

end CatalogDefect

namespace Catalog

/-! ## What is told of one declaration -/

/-- How one more declaration of a method collides with those accepted before it. -/
inductive Collides (m : Method) (before : List (Option Milestone)) :
    Option Milestone → CatalogDefect → Prop where
  | invariantTwice (hbefore : none ∈ before) : Collides m before none (.invariantTwice m)
  | afterVersions {a : Milestone} (hbefore : some a ∈ before) : Collides m before none (.mixed m)
  | afterInvariant {a : Milestone} (hbefore : none ∈ before) : Collides m before (some a) (.mixed m)
  | milestoneTwice {a : Milestone} (hbefore : some a ∈ before) :
      Collides m before (some a) (.milestoneTwice m a)

/-- What is told of a declaration that those before it do not admit. A wire version of another
method is told whatever else is wrong. -/
inductive Refused (before : List Declaration) (d : Declaration) : CatalogDefect → Prop where
  | otherMethod (hother : d.version.method ≠ d.method) : Refused before d (.otherMethod d.method)
  | collision {defect : CatalogDefect} (hown : d.version.method = d.method)
      (hcollides : Collides d.method (sinces before d.method) d.since defect) :
      Refused before d defect

/-- A declaration goes with the accepted ones exactly if it collides with none of them. -/
theorem exists_collides_iff {m : Method} {before : List (Option Milestone)}
    {since : Option Milestone} :
    (∃ defect, Collides m before since defect) ↔ ¬ Admits before since := by
  constructor
  · rintro ⟨defect, hcollides⟩ hadmits
    cases hcollides with
    | invariantTwice hbefore => exact List.ne_nil_of_mem hbefore hadmits
    | afterVersions hbefore => exact List.ne_nil_of_mem hbefore hadmits
    | afterInvariant hbefore => exact hadmits.1 hbefore
    | milestoneTwice hbefore => exact hadmits.2 hbefore
  · intro hnot
    cases since with
    | none =>
        obtain ⟨since, hsince⟩ := List.exists_mem_of_ne_nil before hnot
        cases since with
        | none => exact ⟨_, .invariantTwice hsince⟩
        | some a => exact ⟨_, .afterVersions hsince⟩
    | some a =>
        by_cases hnone : none ∈ before
        · exact ⟨_, .afterInvariant hnone⟩
        · exact ⟨_, .milestoneTwice (Decidable.not_not.mp fun hnew => hnot ⟨hnone, hnew⟩)⟩

theorem exists_refused_iff {before : List Declaration} {d : Declaration} :
    (∃ defect, Refused before d defect) ↔ ¬ Acceptable before d := by
  by_cases hown : d.version.method = d.method
  case neg => exact iff_of_true ⟨_, .otherMethod hown⟩ fun hacceptable => hown hacceptable.own
  case pos =>
    have hadmits : Acceptable before d ↔ Admits (sinces before d.method) d.since :=
      ⟨(·.admitted), fun hadmitted => ⟨hown, hadmitted⟩⟩
    rw [hadmits, ← exists_collides_iff (m := d.method)]
    constructor
    · rintro ⟨defect, hrefused⟩
      cases hrefused with
      | otherMethod hother => exact absurd hown hother
      | collision _ hcollides => exact ⟨defect, hcollides⟩
    · rintro ⟨defect, hcollides⟩
      exact ⟨defect, .collision hown hcollides⟩

/-- Declarations agree exactly if each goes with those before it. -/
theorem agreeing_iff {declarations : List Declaration} :
    Agreeing declarations ↔
      ∀ before d after, declarations = before ++ d :: after → Acceptable before d := by
  constructor
  · rintro hagreeing before d after rfl
    rw [List.append_cons] at hagreeing
    exact (agreeing_concat.mp hagreeing.of_append).2
  · intro hacceptable
    induction declarations using List.reverseRecOn with
    | nil => exact agreeing_nil
    | append_singleton declarations d ih =>
        refine agreeing_concat.mpr ⟨ih ?_, hacceptable declarations d [] rfl⟩
        rintro before e after rfl
        exact hacceptable before e (after ++ [d]) (by simp)

/-! ## Declaring one after the other -/

variable {declarations : List Declaration} {defect : CatalogDefect}

/-- Entries tell how one more declaration collides with those that they record. -/
theorem Records.extend_error_iff {m : Method} {declared : Option Entries}
    (hrecords : Records declarations m declared) {since : Option Milestone} {i : Instance} :
    Catalog.extend m since i declared = .error defect ↔
      Collides m (sinces declarations m) since defect := by
  constructor
  · intro hextend
    unfold Catalog.extend at hextend
    split at hextend
    case h_1 | h_4 => cases hextend
    case h_2 =>
      cases hextend
      exact .invariantTwice (hrecords.mem_sinces_invariant.mpr rfl)
    case h_3 =>
      cases hextend
      obtain ⟨a, ha⟩ := hrecords.exists_some_mem_sinces
      exact .afterVersions ha
    case h_5 =>
      cases hextend
      exact .afterInvariant (hrecords.mem_sinces_invariant.mpr rfl)
    case h_6 milestone versions =>
      split at hextend
      next htwice =>
        cases hextend
        exact .milestoneTwice (hrecords.some_mem_sinces.mpr htwice)
      next => cases hextend
  · intro hcollides
    match declared with
    | none =>
        rw [hrecords.sinces_eq_nil] at hcollides
        cases hcollides <;> exact absurd ‹_› List.not_mem_nil
    | some (.invariant j) =>
        cases hcollides with
        | invariantTwice | afterInvariant => rfl
        | afterVersions hbefore | milestoneTwice hbefore =>
            cases hrecords.mem_sinces_invariant.mp hbefore
    | some (.versioned versions) =>
        cases hcollides with
        | invariantTwice hbefore | afterInvariant hbefore =>
            exact absurd hbefore hrecords.none_not_mem_sinces
        | afterVersions => rfl
        | milestoneTwice hbefore => exact if_pos (hrecords.some_mem_sinces.mp hbefore)

theorem declare_error_iff {draft : Draft} (hrecords : ∀ m, Records declarations m (draft m))
    {d : Declaration} {place : Nat} :
    declare draft place d = .error defect ↔ Refused declarations d defect := by
  unfold declare
  split
  next hother =>
    constructor
    · rintro ⟨⟩
      exact .otherMethod hother
    · intro hrefused
      cases hrefused with
      | otherMethod => rfl
      | collision hown => exact absurd hown hother
  next hown =>
    have hown := Decidable.not_not.mp hown
    rw [map_eq_error_iff, Records.extend_error_iff (hrecords d.method)]
    constructor
    · exact fun hcollides => .collision hown hcollides
    · intro hrefused
      cases hrefused with
      | otherMethod hother => exact absurd hown hother
      | collision _ hcollides => exact hcollides

/-- Of further declarations the first one is told that does not go with those before it. -/
theorem declareAll_error_iff {before rest : List Declaration} {draft : Draft}
    (hrecords : ∀ m, Records before m (draft m)) (hbefore : Agreeing before) :
    declareAll draft before.length rest = .error defect ↔
      ∃ front d back, rest = front ++ d :: back ∧ Agreeing (before ++ front) ∧
        Refused (before ++ front) d defect := by
  induction rest generalizing before draft with
  | nil => simp [declareAll]
  | cons d rest ih =>
      have hstep : declare draft before.length d = .error defect ↔ Refused before d defect :=
        declare_error_iff hrecords
      have haccepted : (∃ next, declare draft before.length d = .ok next) ↔ Acceptable before d :=
        declare_ok_iff hrecords
      unfold declareAll
      split
      next told htold =>
        rw [htold] at hstep haccepted
        rw [hstep]
        constructor
        · exact fun hrefused => ⟨[], d, rest, rfl, by simpa using hbefore, by simpa using hrefused⟩
        · rintro ⟨front, e, back, hsplit, hagreeing, hrefused⟩
          rcases List.cons_eq_append_iff.mp hsplit with ⟨rfl, hhead⟩ | ⟨front, rfl, -⟩
          · cases hhead
            simpa using hrefused
          -- the first declaration is refused already
          · rw [List.append_cons] at hagreeing
            have hacceptable := (agreeing_concat.mp hagreeing.of_append).2
            obtain ⟨next, hnext⟩ := haccepted.mpr hacceptable
            cases hnext
      next next hnext =>
        have hacceptable := haccepted.mp ⟨next, hnext⟩
        have hlength : before.length + 1 = (before ++ [d]).length := by simp
        rw [hlength, ih (declare_records hrecords hnext)
          (agreeing_concat.mpr ⟨hbefore, hacceptable⟩)]
        simp only [List.append_assoc, List.singleton_append]
        constructor
        · rintro ⟨front, e, back, rfl, hagreeing, hrefused⟩
          exact ⟨d :: front, e, back, rfl, hagreeing, hrefused⟩
        · rintro ⟨front, e, back, hsplit, hagreeing, hrefused⟩
          rcases List.cons_eq_append_iff.mp hsplit with ⟨rfl, hhead⟩ | ⟨front, rfl, rfl⟩
          · cases hhead
            have hrefused : Refused before d defect := by simpa using hrefused
            exact absurd hacceptable (exists_refused_iff.mp ⟨defect, hrefused⟩)
          · exact ⟨front, e, back, rfl, hagreeing, hrefused⟩

theorem complete_error_iff {draft : Draft} (hrecords : ∀ m, Records declarations m (draft m)) :
    complete draft = .error defect ↔
      ∃ m, defect = .undeclared m ∧ (∀ d ∈ declarations, d.method ≠ m) ∧
        ∀ n, n.order < m.order → ∃ d ∈ declarations, d.method = n := by
  have hdeclared (m : Method) : (draft m).isNone = false ↔ ∃ d ∈ declarations, d.method = m := by
    rw [← Records.isSome_iff (hrecords m), Option.isNone_eq_false_iff]
  have hfind {m : Method} : Method.all.find? (fun m => (draft m).isNone) = some m ↔
      (∀ d ∈ declarations, d.method ≠ m) ∧
        ∀ n, n.order < m.order → ∃ d ∈ declarations, d.method = n := by
    rw [Method.find?_all_eq_some_iff]
    refine and_congr ?_ (forall₂_congr fun n _ => hdeclared n)
    rw [← Bool.not_eq_false, hdeclared]
    simp
  unfold complete
  split
  next m hm =>
    constructor
    · rintro ⟨⟩
      exact ⟨m, rfl, hfind.mp hm⟩
    · rintro ⟨n, rfl, hn⟩
      cases hm.symm.trans (hfind.mpr hn)
      rfl
  next hnone =>
    refine iff_of_false nofun ?_
    rintro ⟨m, -, hm⟩
    cases hnone.symm.trans (hfind.mpr hm)

/-! ## The one defect -/

/-- The defect to be told of a list of declarations. -/
inductive FirstDefect (declarations : List Declaration) : CatalogDefect → Prop where
  /-- What is told of the first declaration that does not go with those before it. -/
  | refused {before after : List Declaration} {d : Declaration} {defect : CatalogDefect}
      (hsplit : declarations = before ++ d :: after)
      (hfirst : ∀ front e back, before = front ++ e :: back → Acceptable front e)
      (hrefused : Refused before d defect) : FirstDefect declarations defect
  /-- If every declaration goes with those before it, the first method that has none. -/
  | undeclared {m : Method}
      (haccepted : ∀ before d after, declarations = before ++ d :: after → Acceptable before d)
      (hundeclared : ∀ d ∈ declarations, d.method ≠ m)
      (hleast : ∀ n, n.order < m.order → ∃ d ∈ declarations, d.method = n) :
      FirstDefect declarations (.undeclared m)

theorem firstDefect_iff : FirstDefect declarations defect ↔
    (∃ before d after, declarations = before ++ d :: after ∧ Agreeing before ∧
      Refused before d defect) ∨
    Agreeing declarations ∧ ∃ m, defect = .undeclared m ∧ (∀ d ∈ declarations, d.method ≠ m) ∧
      ∀ n, n.order < m.order → ∃ d ∈ declarations, d.method = n := by
  constructor
  · intro hfirst
    cases hfirst with
    | refused hsplit hfirst hrefused =>
        exact .inl ⟨_, _, _, hsplit, agreeing_iff.mpr hfirst, hrefused⟩
    | undeclared haccepted hundeclared hleast =>
        exact .inr ⟨agreeing_iff.mpr haccepted, _, rfl, hundeclared, hleast⟩
  · rintro (⟨before, d, after, hsplit, hagreeing, hrefused⟩ | ⟨hagreeing, m, rfl, hm, hleast⟩)
    · exact .refused hsplit (agreeing_iff.mp hagreeing) hrefused
    · exact .undeclared (agreeing_iff.mp hagreeing) hm hleast

theorem ofDeclarations_error_iff :
    ofDeclarations declarations = .error defect ↔ FirstDefect declarations defect := by
  have hempty (m : Method) : Records [] m none := not_builtFor_nil m
  have haccepted : (∃ draft, declareAll (fun _ => none) 0 declarations = .ok draft) ↔
      Agreeing declarations := declareAll_ok_iff hempty agreeing_nil
  have hrefused : declareAll (fun _ => none) 0 declarations = .error defect ↔
      ∃ before d after, declarations = before ++ d :: after ∧ Agreeing before ∧
        Refused before d defect := declareAll_error_iff hempty agreeing_nil
  rw [firstDefect_iff, ← hrefused, ← haccepted]
  unfold ofDeclarations
  split
  next told htold => simp [htold]
  next draft hdraft =>
    simp [hdraft, complete_error_iff (declareAll_records hempty hdraft)]

/-- A list of declarations that makes no catalog is told its first defect, in words in which no
other defect is told. That is what is wrong with the first declaration that does not go with those
before it, and there is something to tell of any such declaration; a method that is left out is told
only if there is no such declaration, and it is the first of them. -/
theorem first_defect_is_told (declarations : List Declaration) :
    (∀ defect, ofDeclarations declarations = .error defect ↔ FirstDefect declarations defect) ∧
    (∀ before d, (∃ defect, Refused before d defect) ↔ ¬ Acceptable before d) ∧
    Function.Injective CatalogDefect.message :=
  ⟨fun _ => ofDeclarations_error_iff, fun _ _ => exists_refused_iff,
    CatalogDefect.message_injective⟩

-- the second declaration repeats a milestone and names a version of another method; a method that
-- is declared in both ways comes later, and most methods are left out
example : ofDeclarations [⟨.getPayload, some .capella, .getPayloadV2⟩,
    ⟨.getPayload, some .capella, .newPayloadV1⟩, ⟨.getPayload, none, .getPayloadV1⟩] =
    .error (.otherMethod .getPayload) := rfl

end Catalog

end EngineCall
