import EngineCall.Proofs.Json.KeyOrder
import EngineCall.Proofs.Json.Scalars

/-!
# Values are read back from their text

A value without floating point numbers is written to a text that is read as the tree of the value,
as long as its brackets are not nested deeper than a reader allows. Where its keys stand in order,
as they do in every value that was read, reading all of the tree gives the value itself.
-/

namespace EngineCall.Json

open Text (Transcript)

/-! ## Values that a text can carry -/

namespace Value

/-- That a text can carry a value: its numbers are integers of 64 bits, signed or not, and no more
than `room` of its brackets stand within one another. -/
inductive Carried : Nat → Value → Prop where
  | null {room : Nat} : Carried room .null
  | bool {room : Nat} (b : Bool) : Carried room (.bool b)
  | integer {room : Nat} {n : Int} (hleast : -0x8000000000000000 ≤ n)
      (hgreatest : n < 0x10000000000000000) : Carried room (.number (.integer n))
  | string {room : Nat} (s : String) : Carried room (.string s)
  | array {room : Nat} {items : List Value} (hitems : ∀ v ∈ items, Carried room v) :
      Carried (room + 1) (.array items)
  | object {room : Nat} {members : List (String × Value)}
      (hmembers : ∀ m ∈ members, Carried room m.2) : Carried (room + 1) (.object members)

end Value

/-! ## First characters -/

theorem isGap_of_isDigit {c : Char} (hc : isDigit c) : isGap c = false := by
  cases hgap : isGap c with
  | false => rfl
  | true =>
      simp only [isGap, Bool.or_eq_true, decide_eq_true_eq] at hgap
      rcases hgap with ((rfl | rfl) | rfl) | rfl <;> exact absurd hc (by decide)

theorem dropGap_cons {c : Char} (hc : isGap c = false) (s : Transcript) :
    dropGap (some c :: s) = some c :: s := by
  simp [dropGap, hc]

theorem dropGap_of_delimited {s : Transcript} (hs : Delimited s) : dropGap s = s := by
  cases hs <;> rfl

theorem scanNode_of_isDigit {c : Char} (hc : isDigit c) (fuel depth : Nat) (s : Transcript) :
    scanNode (fuel + 1) depth (some c :: s) = scanNumber false (some c :: s) := by
  rw [scanNode, dropGap_cons (isGap_of_isDigit hc)]
  split
  case h_9 heq =>
    cases heq
    exact if_pos hc
  all_goals
    next heq => cases heq <;> exact absurd hc (by decide)

/-- A text of a value begins with neither a blank nor a bracket that closes. -/
theorem Value.Carried.exists_first {room : Nat} {v : Value} (hv : v.Carried room) :
    ∃ c chars, v.toChars = c :: chars ∧ isGap c = false ∧ c ≠ ']' := by
  cases hv with
  | null => exact ⟨_, _, rfl, by decide⟩
  | bool b => cases b <;> exact ⟨_, _, rfl, by decide⟩
  | integer =>
      rename_i n hleast hgreatest
      rw [Value.toChars, Number.toChars, integerText]
      split
      next => exact ⟨_, _, rfl, by decide⟩
      next =>
        obtain ⟨c, chars, hdigits⟩ := List.exists_cons_of_ne_nil
          (Nat.toDigits_ne_nil (n := n.natAbs) (b := 10))
        have hc : isDigit c := isDigit_of_mem_toDigits c (hdigits ▸ List.mem_cons_self)
        refine ⟨c, chars, hdigits, isGap_of_isDigit hc, ?_⟩
        rintro rfl
        exact absurd hc (by decide)
  | string s => exact ⟨_, _, rfl, by decide⟩
  | array => exact ⟨_, _, rfl, by decide⟩
  | object => exact ⟨_, _, rfl, by decide⟩

/-! ## One value after another -/

/-- That a value is scanned from its text under a number of open brackets. -/
def ScannedAt (depth : Nat) (v : Value) : Prop :=
  ∀ fuel rest, v.toChars.length ≤ fuel → Delimited rest →
    scanNode fuel depth (v.toChars.map some ++ rest) = (v.toNode, some rest)

variable {depth room : Nat}

/-- No text of a value is empty, so there is fuel for at least one step. -/
theorem scannedAt_of_step {v : Value} (hne : v.toChars ≠ [])
    (hstep : ∀ fuel rest, v.toChars.length ≤ fuel + 1 → Delimited rest →
      scanNode (fuel + 1) depth (v.toChars.map some ++ rest) = (v.toNode, some rest)) :
    ScannedAt depth v := by
  intro fuel rest hfuel hrest
  cases fuel with
  | zero => exact absurd (List.length_eq_zero_iff.mp (Nat.le_zero.mp hfuel)) hne
  | succ fuel => exact hstep fuel rest hfuel hrest

theorem scannedAt_integer {n : Int} (hleast : -0x8000000000000000 ≤ n)
    (hgreatest : n < 0x10000000000000000) : ScannedAt depth (.number (.integer n)) := by
  by_cases hn : n < 0
  case pos =>
    have htext : Value.toChars (.number (.integer n)) = '-' :: Nat.toDigits 10 n.natAbs := by
      simp only [Value.toChars, Number.toChars, integerText, if_pos hn]
    refine scannedAt_of_step (by simp [htext]) fun fuel rest _ hrest => ?_
    have hscan := scanNumber_negative (n := n.natAbs) (by omega) (by omega) hrest
    rw [show -((n.natAbs : Nat) : Int) = n by omega] at hscan
    rw [htext]
    exact hscan
  case neg =>
    have htext : Value.toChars (.number (.integer n)) = Nat.toDigits 10 n.natAbs := by
      simp only [Value.toChars, Number.toChars, integerText, if_neg hn]
    refine scannedAt_of_step (by simp [htext, Nat.toDigits_ne_nil]) fun fuel rest _ hrest => ?_
    have hscan := scanNumber_natural (n := n.natAbs) (by
      simp only [Numeral.room, UInt64.size]
      omega) hrest
    rw [show ((n.natAbs : Nat) : Int) = n by omega] at hscan
    rw [htext]
    obtain ⟨c, digits, hdigits⟩ := List.exists_cons_of_ne_nil
      (Nat.toDigits_ne_nil (n := n.natAbs) (b := 10))
    have hc : isDigit c := isDigit_of_mem_toDigits c (hdigits ▸ List.mem_cons_self)
    rw [hdigits] at hscan ⊢
    exact (scanNode_of_isDigit hc _ _ _).trans hscan

/-! ## Items -/

theorem scanNode_bracket {c : Char} (hgap : isGap c = false) (hc : c ≠ ']') (fuel : Nat)
    (s : Transcript) :
    scanNode (fuel + 1) depth (some '[' :: some c :: s) =
      (bounded depth (.array (scanItems fuel (depth + 1) (some c :: s)).1
        (scanItems fuel (depth + 1) (some c :: s)).2.1),
        (scanItems fuel (depth + 1) (some c :: s)).2.2) := by
  rw [scanNode, dropGap_cons (by decide)]
  simp only [dropGap_cons hgap]
  split
  next heq => cases heq
  next heq =>
    cases heq
    exact absurd rfl hc
  next => rfl

theorem scanItems_last {v : Value} (hv : ScannedAt depth v) {fuel : Nat}
    (hfuel : v.toChars.length ≤ fuel) (rest : Transcript) :
    scanItems (fuel + 1) depth (v.toChars.map some ++ some ']' :: rest) =
      ([v.toNode], none, some rest) := by
  rw [scanItems, hv fuel _ hfuel (.bracket rest)]
  rfl

theorem scanItems_more {v : Value} (hv : ScannedAt depth v) {c : Char} (hgap : isGap c = false)
    (hc : c ≠ ']') {fuel : Nat} (hfuel : v.toChars.length ≤ fuel) (rest : Transcript) :
    scanItems (fuel + 1) depth (v.toChars.map some ++ some ',' :: some c :: rest) =
      (v.toNode :: (scanItems fuel depth (some c :: rest)).1,
        (scanItems fuel depth (some c :: rest)).2) := by
  rw [scanItems, hv fuel _ hfuel (.comma _)]
  simp only [dropGap_of_delimited (.comma _), dropGap_cons hgap]
  split
  next heq =>
    cases heq
    exact absurd rfl hc
  next => rfl

theorem exists_first_itemChars {v : Value} (hv : v.Carried room) (items : List Value) :
    ∃ c chars, Value.itemChars (v :: items) = c :: chars ∧ isGap c = false ∧ c ≠ ']' := by
  obtain ⟨c, chars, hfirst, hgap, hc⟩ := hv.exists_first
  cases items with
  | nil => exact ⟨c, chars, hfirst, hgap, hc⟩
  | cons w items =>
      refine ⟨c, chars ++ ',' :: Value.itemChars (w :: items), ?_, hgap, hc⟩
      rw [Value.itemChars, hfirst, List.cons_append]
      simp

theorem scanItems_itemChars {items : List Value} (hne : items ≠ [])
    (hcarried : ∀ v ∈ items, v.Carried room) (hscanned : ∀ v ∈ items, ScannedAt depth v)
    {fuel : Nat} (hfuel : (Value.itemChars items).length < fuel) (rest : Transcript) :
    scanItems fuel depth ((Value.itemChars items).map some ++ some ']' :: rest) =
      (Value.toNodes items, none, some rest) := by
  induction items generalizing fuel with
  | nil => exact absurd rfl hne
  | cons v items ih =>
      obtain ⟨fuel, rfl⟩ : ∃ n, fuel = n + 1 := ⟨fuel - 1, by omega⟩
      obtain ⟨hv, hitems⟩ := List.forall_mem_cons.mp hscanned
      cases items with
      | nil => exact scanItems_last hv (Nat.le_of_lt_succ hfuel) rest
      | cons w items =>
          have hcarried' := (List.forall_mem_cons.mp hcarried).2
          obtain ⟨c, chars, hfirst, hgap, hc⟩ :=
            exists_first_itemChars (hcarried' w List.mem_cons_self) items
          have htext : Value.itemChars (v :: w :: items) =
              v.toChars ++ ',' :: Value.itemChars (w :: items) := by
            rw [Value.itemChars]
            simp
          have hlength : v.toChars.length + (Value.itemChars (w :: items)).length < fuel := by
            rw [htext, List.length_append, List.length_cons] at hfuel
            omega
          have hrest := ih (List.cons_ne_nil _ _) hcarried' hitems (show _ < fuel by omega)
          rw [hfirst, List.map_cons, List.cons_append] at hrest
          rw [htext, List.map_append, List.map_cons, hfirst, List.map_cons, List.append_assoc,
            List.cons_append, List.cons_append, scanItems_more hv hgap hc (by omega), hrest]
          rfl

/-! ## Members -/

theorem scanNode_brace (fuel : Nat) (s : Transcript) :
    scanNode (fuel + 1) depth (some '\x7b' :: some '"' :: s) =
      (bounded depth (.object (scanMembers fuel (depth + 1) (some '"' :: s)).1
        (scanMembers fuel (depth + 1) (some '"' :: s)).2.1),
        (scanMembers fuel (depth + 1) (some '"' :: s)).2.2) := rfl

/-- The text of a member, with what stands behind it. -/
def memberText (k : String) (v : Value) (rest : Transcript) : Transcript :=
  some '"' :: ((k.toList.flatMap escapeChar).map some ++
    some '"' :: some ':' :: (v.toChars.map some ++ rest))

theorem scanMembers_last {v : Value} (hv : ScannedAt depth v) {fuel : Nat}
    (hfuel : v.toChars.length ≤ fuel) (k : String) (rest : Transcript) :
    scanMembers (fuel + 1) depth (memberText k v (some '\x7d' :: rest)) =
      ([(.name k, v.toNode)], none, some rest) := by
  simp only [memberText, scanMembers, scanLiteral_escaped, Option.map_some,
    dropGap_cons (c := ':') (by decide), hv fuel _ hfuel (.brace rest),
    dropGap_of_delimited (.brace rest)]

theorem scanMembers_more {v : Value} (hv : ScannedAt depth v) {fuel : Nat}
    (hfuel : v.toChars.length ≤ fuel) (k : String) (rest : Transcript) :
    scanMembers (fuel + 1) depth (memberText k v (some ',' :: some '"' :: rest)) =
      ((.name k, v.toNode) :: (scanMembers fuel depth (some '"' :: rest)).1,
        (scanMembers fuel depth (some '"' :: rest)).2) := by
  simp only [memberText, scanMembers, scanLiteral_escaped, Option.map_some,
    dropGap_cons (c := ':') (by decide), hv fuel _ hfuel (.comma _),
    dropGap_of_delimited (.comma _), dropGap_cons (c := '"') (by decide)]
  rfl

theorem memberChars_last (k : String) (v : Value) (rest : Transcript) :
    (Value.memberChars [(k, v)]).map some ++ rest = memberText k v rest := by
  simp [Value.memberChars, literalChars, memberText]

theorem memberChars_more (k : String) (v : Value) (m : String × Value)
    (members : List (String × Value)) (rest : Transcript) :
    (Value.memberChars ((k, v) :: m :: members)).map some ++ rest =
      memberText k v (some ',' :: ((Value.memberChars (m :: members)).map some ++ rest)) := by
  simp [Value.memberChars, literalChars, memberText]

theorem exists_first_memberChars (m : String × Value) (members : List (String × Value)) :
    ∃ chars, Value.memberChars (m :: members) = '"' :: chars := by
  cases members <;> exact ⟨_, rfl⟩

theorem length_lt_memberChars (k : String) (v : Value) (members : List (String × Value)) :
    v.toChars.length + (Value.memberChars members).length <
      (Value.memberChars ((k, v) :: members)).length := by
  cases members <;> simp [Value.memberChars, literalChars] <;> omega

theorem scanMembers_memberChars {members : List (String × Value)} (hne : members ≠ [])
    (hscanned : ∀ m ∈ members, ScannedAt depth m.2) {fuel : Nat}
    (hfuel : (Value.memberChars members).length < fuel) (rest : Transcript) :
    scanMembers fuel depth ((Value.memberChars members).map some ++ some '\x7d' :: rest) =
      (Value.toMembers members, none, some rest) := by
  induction members generalizing fuel with
  | nil => exact absurd rfl hne
  | cons m members ih =>
      obtain ⟨k, v⟩ := m
      obtain ⟨fuel, rfl⟩ : ∃ n, fuel = n + 1 := ⟨fuel - 1, by omega⟩
      obtain ⟨(hv : ScannedAt depth v), hmembers⟩ := List.forall_mem_cons.mp hscanned
      have hlength := length_lt_memberChars k v members
      cases members with
      | nil =>
          rw [memberChars_last, scanMembers_last hv (by omega)]
          rfl
      | cons m members =>
          obtain ⟨chars, hfirst⟩ := exists_first_memberChars m members
          have hrest := ih (List.cons_ne_nil _ _) hmembers (show _ < fuel by omega)
          rw [memberChars_more]
          rw [hfirst, List.map_cons, List.cons_append] at hrest ⊢
          rw [scanMembers_more hv (by omega), hrest]
          rfl

/-! ## Values -/

theorem bounded_of_lt (hdepth : depth < openLimit) (node : Node) : bounded depth node = node :=
  if_pos hdepth

theorem scannedAt_array {items : List Value} (hdepth : depth < openLimit)
    (hcarried : ∀ v ∈ items, v.Carried room) (hscanned : ∀ v ∈ items, ScannedAt (depth + 1) v) :
    ScannedAt depth (.array items) := by
  refine scannedAt_of_step (by simp [Value.toChars]) fun fuel rest hfuel _ => ?_
  have htext : (Value.toChars (.array items)).map some ++ rest =
      some '[' :: ((Value.itemChars items).map some ++ some ']' :: rest) := by
    simp [Value.toChars]
  have hlength : (Value.itemChars items).length < fuel := by
    simp only [Value.toChars, List.length_cons, List.length_append, List.length_nil] at hfuel
    omega
  rw [htext]
  cases items with
  | nil => exact congrArg (·, some rest) (bounded_of_lt hdepth _)
  | cons v items =>
      obtain ⟨c, chars, hfirst, hgap, hc⟩ :=
        exists_first_itemChars (hcarried v List.mem_cons_self) items
      have hscan := scanItems_itemChars (List.cons_ne_nil v items) hcarried hscanned hlength rest
      rw [hfirst, List.map_cons, List.cons_append] at hscan ⊢
      rw [scanNode_bracket hgap hc, hscan, bounded_of_lt hdepth]
      rfl

theorem scannedAt_object {members : List (String × Value)} (hdepth : depth < openLimit)
    (hscanned : ∀ m ∈ members, ScannedAt (depth + 1) m.2) :
    ScannedAt depth (.object members) := by
  refine scannedAt_of_step (by simp [Value.toChars]) fun fuel rest hfuel _ => ?_
  have htext : (Value.toChars (.object members)).map some ++ rest =
      some '\x7b' :: ((Value.memberChars members).map some ++ some '\x7d' :: rest) := by
    simp [Value.toChars]
  have hlength : (Value.memberChars members).length < fuel := by
    simp only [Value.toChars, List.length_cons, List.length_append, List.length_nil] at hfuel
    omega
  rw [htext]
  cases members with
  | nil => exact congrArg (·, some rest) (bounded_of_lt hdepth _)
  | cons m members =>
      obtain ⟨chars, hfirst⟩ := exists_first_memberChars m members
      have hscan := scanMembers_memberChars (List.cons_ne_nil m members) hscanned hlength rest
      rw [hfirst, List.map_cons, List.cons_append] at hscan ⊢
      rw [scanNode_brace, hscan, bounded_of_lt hdepth]
      rfl

theorem scannedAt_string (s : String) : ScannedAt depth (.string s) := by
  refine scannedAt_of_step (by simp [Value.toChars, literalChars]) fun fuel rest _ _ => ?_
  have htext : (Value.toChars (.string s)).map some ++ rest =
      some '"' :: ((s.toList.flatMap escapeChar).map some ++ some '"' :: rest) := by
    simp [Value.toChars, literalChars]
  have hscan : scanText ((s.toList.flatMap escapeChar).map some ++ some '"' :: rest) =
      (.string s, some rest) := by
    rw [scanText, scanLiteral_escaped]
  rw [htext]
  exact hscan

/-- Under as many brackets as leave room for its own, a value is scanned from its text. -/
theorem Value.Carried.scannedAt {v : Value} (hv : v.Carried room)
    (hroom : depth + room ≤ openLimit) : ScannedAt depth v := by
  induction hv generalizing depth with
  | null => exact scannedAt_of_step (by simp [Value.toChars]) fun _ _ _ _ => rfl
  | bool b =>
      cases b <;> exact scannedAt_of_step (by simp [Value.toChars]) fun _ _ _ _ => rfl
  | integer hleast hgreatest => exact scannedAt_integer hleast hgreatest
  | string s => exact scannedAt_string s
  | array hitems ih =>
      exact scannedAt_array (by omega) hitems fun v hv => ih v hv (by omega)
  | object hmembers ih => exact scannedAt_object (by omega) fun m hm => ih m hm (by omega)

/-! ## Documents -/

theorem toList_loop_eq (bytes : ByteArray) (i : Nat) (read : List UInt8) :
    ByteArray.toList.loop bytes i read = read.reverse ++ bytes.data.toList.drop i := by
  fun_induction ByteArray.toList.loop bytes i read with
  | case1 i read hi ih =>
      have hbyte : bytes.get! i = bytes.data.toList[i] :=
        (getElem!_pos bytes.data i hi).trans (Array.getElem_toList hi).symm
      rw [ih, hbyte, List.reverse_cons, List.append_assoc, List.singleton_append,
        List.getElem_cons_drop]
  | case2 i read hi =>
      have hlength : bytes.data.toList.length ≤ i := by simpa using hi
      rw [List.drop_eq_nil_of_le hlength, List.append_nil]

theorem fromUTF8?_toList_toUTF8 (s : String) :
    String.fromUTF8? ⟨s.toUTF8.toList.toArray⟩ = some s := by
  have hbytes : (⟨s.toUTF8.toList.toArray⟩ : ByteArray) = s.toUTF8 := by
    rw [ByteArray.toList, toList_loop_eq]
    rfl
  rw [hbytes]
  exact dif_pos s.isValidUTF8

theorem Document.ofText_toText {v : Value} (hv : v.Carried openLimit) :
    Document.ofText v.toText = ⟨v.toNode, false⟩ := by
  have hscan := hv.scannedAt (Nat.le_of_eq (Nat.zero_add _))
    (2 * (v.toChars.map some).length + 2) [] (by rw [List.length_map]; omega) .nil
  rw [List.append_nil] at hscan
  rw [Document.ofText, Value.toText, String.toList_ofList, Document.ofTranscript, hscan]
  rfl

/-- The bytes of the text of a value are read as its tree, and nothing stands behind it. -/
theorem Document.ofBytes_toText {v : Value} (hv : v.Carried openLimit) :
    Document.ofBytes v.toText.toUTF8.toList = ⟨v.toNode, false⟩ := by
  rw [Document.ofBytes, fromUTF8?_toList_toUTF8]
  exact Document.ofText_toText hv

/-- What is written of an ordered value is read back as the value. -/
theorem Value.ofText_toText {v : Value} (hcarried : v.Carried openLimit) (hordered : v.Ordered) :
    ofText v.toText = .ok v := by
  rw [ofText, Document.ofText_toText hcarried, Document.toValue, hordered.toValue_toNode]
  rfl

end EngineCall.Json
