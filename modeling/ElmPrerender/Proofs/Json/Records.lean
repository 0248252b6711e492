import ElmPrerender.Json.Typed
import ElmPrerender.Proofs.Json.Values

/-!
# Written records are read back

An object whose names are fields of the record, each met once, is read as the list of its fields in
the order of the text.
-/

namespace ElmPrerender.Json.Reader

open Text.Utf8

variable {α β : Type}

section Fields

variable {names : List String} {item : String → Reader α} {text : α → Bytes}
  {gap space closing : Bytes}

/-- The fields done so far are not met again. -/
theorem fresh_of_nodup {done fields : List (String × α)} {m : String × α}
    (distinct : ((done ++ m :: fields).map (·.1)).Nodup) : done.any (·.1 == m.1) = false := by
  rw [List.map_append, List.nodup_append] at distinct
  rw [List.any_eq_false]
  intro old hold
  have hne := distinct.2.2 old.1 (List.mem_map_of_mem hold) m.1 (by simp)
  simpa using hne

/-- A field whose opening quote has been read, and what the loop does after it. -/
theorem reads_field (hspace : Blank space) {m : String × α} {done : List (String × α)}
    (known : names.contains m.1 = true) (fresh : done.any (·.1 == m.1) = false)
    (written : Written (item m.1) (text m.2) m.2) {fuel : Nat} {more rest : Bytes}
    {result : Except Cause (List (String × α))} (stop : Stops more)
    (others : Reads (fieldValues names item fuel false (done ++ [m])) more result rest) :
    Reads (do
        let name ← stringRest
        if !names.contains name then pure (.error (.unknownField name names))
        else if done.any (·.1 == name) then pure (.error (.duplicateField name))
        else do
          colon
          let a ← item name
          fieldValues names item fuel false (done ++ [(name, a)]))
      (encode (m.1.toList.flatMap escape) ++ byte '"' ::
        (byte ':' :: (space ++ (text m.2 ++ more)))) result rest := by
  refine (reads_stringRest m.1 _).bind ?_
  simp only [known, fresh, Bool.not_true, Bool.false_eq_true, if_false]
  exact (reads_colon _).bind ((written.reads hspace stop).bind others)

/-- The loop over the fields, by induction on those that are left. -/
theorem reads_fieldValues (hgap : Blank gap) (hspace : Blank space) (hclosing : Blank closing)
    {fields : List (String × α)} (done : List (String × α))
    (known : ∀ m ∈ fields, names.contains m.1 = true)
    (distinct : ((done ++ fields).map (·.1)).Nodup)
    (written : ∀ m ∈ fields, Written (item m.1) (text m.2) m.2) (fuel : Nat)
    (enough : fields.length < fuel) (first : Bool) (rest : Bytes) :
    Reads (fieldValues names item fuel first done)
      (remaining first gap (fields.map (memberText space text)) ++
        (closing ++ byte '}' :: rest)) (.ok (done ++ fields)) (byte '}' :: rest) := by
  induction fields generalizing fuel first done with
  | nil =>
    cases fuel with
    | zero => exact absurd enough (Nat.not_lt_zero _)
    | succ fuel =>
      rw [List.append_nil, List.map_nil, remaining_nil]
      exact (reads_hasMember_close hclosing first rest).bind (reads_pure _ _)
  | cons m fields ih =>
    cases fuel with
    | zero => exact absurd enough (Nat.not_lt_zero _)
    | succ fuel =>
      obtain ⟨hknown, hothers⟩ := List.forall_mem_cons.mp known
      obtain ⟨hm, hwritten⟩ := List.forall_mem_cons.mp written
      have hstop := Stops.following gap (fields.map (memberText space text))
        (Stops.of_blank hclosing (b := byte '}') rest rfl)
      have hfields := ih (done ++ [m]) hothers (by simpa using distinct) hwritten fuel
        (by simpa using enough) false
      have hfield := reads_field hspace hknown (fresh_of_nodup distinct) hm hstop hfields
      rw [List.append_assoc, List.singleton_append] at hfield
      rw [List.map_cons]
      refine (reads_hasMember first hgap m _ _).bind ?_
      simp only [if_true]
      exact hfield

end Fields

/-- A record written as an object. -/
theorem reads_record_object {depth : Nat} {expected : String} {names : List String}
    {item : Nat → String → Reader α} {ofFields : List (String × α) → Except Cause β}
    {ofList : Nat → Reader (Except Cause β)} (text : α → Bytes) {gap space closing : Bytes}
    (hgap : Blank gap) (hspace : Blank space) (hclosing : Blank closing)
    (fields : List (String × α)) {record : β}
    (known : ∀ m ∈ fields, names.contains m.1 = true) (distinct : (fields.map (·.1)).Nodup)
    (written : ∀ m ∈ fields, Written (item depth m.1) (text m.2) m.2)
    (built : ofFields fields = .ok record) (rest : Bytes) :
    Reads (Reader.record (depth + 1) expected names item ofFields ofList)
      (byte '{' :: (between gap (fields.map (memberText space text)) ++
        (closing ++ byte '}' :: rest))) record rest := by
  have hlist : byte '{' ≠ byte '[' := by decide
  have enough := length_lt_members gap space text fields (closing ++ byte '}' :: rest)
  have hfields := reads_fieldValues hgap hspace hclosing [] known distinct written _ enough true
    rest
  have hrecord := hfields.bind (f := fun values => pure (values.bind ofFields)) (reads_pure _ _)
  rw [Except.bind, List.nil_append, built] at hrecord
  refine (reads_peekValue Blank.nil (by decide) _).bind ?_
  simp only [if_neg hlist, if_true]
  exact (reads_skipByte _ _).bind (reads_enclosed hrecord rfl)

/-- An object of values, its members as they are written. -/
theorem written_members {indent : List Char} (h : Blank (encode indent)) {depth : Nat}
    {members : Members} (readable : ∀ m ∈ members, m.2.Readable depth) (level : Nat) :
    Written (Reader.object (depth + 1)) (encode ((Value.object members).pretty indent level))
      members := by
  have inner : ∀ m ∈ members,
      Written (value depth) (encode (m.2.pretty indent (level + 1))) m.2 :=
    fun m hm => written_pretty h (readable m hm) (level + 1)
  refine ⟨starts_object h level inner, ?_⟩
  intro blanks rest hblanks _
  obtain ⟨text, htext, hread⟩ := opens_object h level inner rest
  rw [htext]
  refine (reads_peekValue hblanks (by decide) _).bind ?_
  rw [if_pos rfl]
  exact (reads_skipByte _ _).bind hread

end ElmPrerender.Json.Reader
