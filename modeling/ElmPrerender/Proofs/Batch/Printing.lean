import ElmPrerender.Run.Error
import ElmPrerender.Proofs.Json.SelfDelimiting

/-!
# A printed batch is taken as a whole

The running program prints its pages as one JSON list of pairs, without white space. The printed
bytes are decoded to the same pages in the same order. A part of them, or anything but white space
behind them, is refused, so output that is cut off or joined to other output is no batch.
-/

namespace ElmPrerender

open Json Json.Reader Text.Utf8

namespace Json.Reader

variable {α β : Type}

theorem written_string (s : String) : Written string (encode (stringText s)) s := by
  have hquote : isBlank (byte '"') = false := by decide
  refine ⟨?_, ?_⟩
  · have htext := encode_stringText s []
    rw [List.append_nil] at htext
    rw [htext]
    exact ⟨_, _, rfl, hquote, by decide⟩
  · intro blanks rest hblanks _
    rw [encode_stringText]
    refine (reads_peekValue hblanks hquote _).bind ?_
    rw [if_pos rfl]
    exact (reads_skipByte _ _).bind (reads_stringRest s rest)

/-- The text of a list of two items. -/
def pairText (first second : Bytes) : Bytes :=
  byte '[' :: (first ++ byte ',' :: (second ++ [byte ']']))

theorem written_pair {first : Reader α} {second : Reader β} {text text' : Bytes} {a : α} {b : β}
    (one : Written first text a) (other : Written second text' b) (depth : Nat) :
    Written (pair (depth + 1) first second) (pairText text text') (a, b) := by
  have hbracket : isBlank (byte '[') = false := by decide
  refine ⟨⟨_, _, rfl, hbracket, by decide⟩, ?_⟩
  intro blanks rest hblanks _
  have htext : pairText text text' ++ rest =
      byte '[' :: (text ++ byte ',' :: (text' ++ byte ']' :: rest)) := by
    simp [pairText]
  rw [htext]
  refine (reads_peekValue hblanks hbracket _).bind ?_
  rw [if_pos rfl]
  have hcomma : Stops (byte ',' :: (text' ++ byte ']' :: rest)) := rfl
  have hclose : Stops (byte ']' :: rest) := rfl
  have hfirst : Reads (nextItem first 0 "a tuple of size 2")
      (text ++ byte ',' :: (text' ++ byte ']' :: rest)) (.ok a)
      (byte ',' :: (text' ++ byte ']' :: rest)) :=
    (reads_hasItem_first Blank.nil one.start _).bind (one.reads Blank.nil hcomma).map
  have hsecond : Reads (nextItem second 1 "a tuple of size 2")
      (byte ',' :: (text' ++ byte ']' :: rest)) (.ok b) (byte ']' :: rest) :=
    (reads_hasItem_next Blank.nil other.start _).bind (other.reads Blank.nil hclose).map
  have hitems : Reads (twoItems first second "a tuple of size 2")
      (text ++ byte ',' :: (text' ++ byte ']' :: rest)) (.ok (a, b)) (byte ']' :: rest) :=
    hfirst.bind (hsecond.bind (reads_pure _ _))
  exact (reads_skipByte _ _).bind (reads_enclosed hitems rfl)

end Json.Reader

/-- A page as it is printed: the list of its key and its HTML. -/
def RenderedPage.toValue (page : RenderedPage) : Json.Value :=
  .array [.string page.key, .string page.html]

namespace Batch

def toValue (batch : Batch) : Json.Value := .array (batch.map RenderedPage.toValue)

/-- The bytes that are printed for a batch. -/
def printed (batch : Batch) : Bytes := ofString batch.toValue.compactText

def pageText (page : RenderedPage) : Bytes :=
  pairText (encode (stringText page.key)) (encode (stringText page.html))

theorem encode_page (page : RenderedPage) : encode page.toValue.compact = pageText page := by
  have hopen : '['.val.toNat < 128 := by decide
  have hcomma : ','.val.toNat < 128 := by decide
  have hclose : ']'.val.toNat < 128 := by decide
  simp only [RenderedPage.toValue, Value.compact, Value.compactItems, pageText, pairText,
    encode_append, encode_ascii hopen, encode_ascii hcomma, encode_ascii hclose, encode_nil,
    List.append_nil, List.append_assoc, List.cons_append]

theorem encode_pages (pages : List RenderedPage) :
    encode (Value.compactItems (pages.map RenderedPage.toValue)) =
      following [] (pages.map pageText) := by
  induction pages with
  | nil => rfl
  | cons page rest ih =>
    have hcomma : ','.val.toNat < 128 := by decide
    rw [List.map_cons, Value.compactItems, encode_ascii hcomma, encode_append, encode_page, ih]
    simp [following]

/-- The printed bytes are the texts of the pages, between brackets. -/
theorem printed_eq (batch : Batch) :
    batch.printed = byte '[' :: (between [] (batch.map pageText) ++ [byte ']']) := by
  have hopen : '['.val.toNat < 128 := by decide
  have hclose : ']'.val.toNat < 128 := by decide
  rw [printed, ofString, Value.compactText, String.toList_ofList, toValue]
  cases batch with
  | nil => rw [List.map_nil, Value.compact, encode_ascii hopen, encode_ascii hclose]; rfl
  | cons page rest =>
    rw [List.map_cons, Value.compact, encode_ascii hopen, encode_append, encode_append, encode_page,
      encode_pages, encode_ascii hclose, encode_nil]
    simp [between]

theorem written_page (page : RenderedPage) (depth : Nat) :
    Written (Batch.page (depth + 1)) (pageText page) page := by
  have hpair := written_pair (written_string page.key) (written_string page.html) depth
  exact ⟨hpair.start, fun hblanks hstop => (hpair.reads hblanks hstop).map⟩

theorem reads_printed (batch : Batch) {blanks : Bytes} (h : Blank blanks) (rest : Bytes) :
    Reads reader (blanks ++ (batch.printed ++ rest)) batch rest := by
  have hbracket : isBlank (byte '[') = false := by decide
  have hwritten : ∀ p ∈ batch, Written (page (maxDepth - 1)) (pageText p) p :=
    fun p _ => written_page p (maxDepth - 2)
  have hpages := reads_listRest Blank.nil Blank.nil hwritten rest
  rw [printed_eq]
  simp only [List.cons_append, List.append_assoc, List.nil_append] at hpages ⊢
  refine (reads_peekValue h hbracket _).bind ?_
  rw [if_pos rfl]
  exact (reads_skipByte _ _).bind hpages

theorem selfDelimiting_reader : SelfDelimiting reader := by
  refine selfDelimiting_list (fun depth text => ?_) _ _
  exact (selfDelimiting_pair selfDelimiting_string selfDelimiting_string depth text).map _

/-- The last byte of what is printed is no white space, and so no rest of it is. -/
theorem not_blank_of_printed {batch : Batch} {cut more : Bytes} (h : cut ++ more = batch.printed)
    (strict : cut ≠ batch.printed) : ¬ Blank more := by
  intro hmore
  have hnonempty : more ≠ [] := by
    rintro rfl
    exact strict (by rw [← h, List.append_nil])
  have hlast : more.getLast? = some (byte ']') := by
    rw [← List.getLast?_append_of_ne_nil cut hnonempty, h, printed_eq, ← List.cons_append,
      List.getLast?_concat]
  have hblank := hmore _ (List.mem_of_getLast? hlast)
  exact absurd hblank (by decide)

/-- What is printed for a batch is decoded to this batch, with any white space around it. No strict
part of it from its beginning is decoded, and nothing else may stand behind it. -/
theorem printed_decoded_whole (batch : Batch) :
    (∀ before after, Blank before → Blank after →
      decode (before ++ batch.printed ++ after) = .ok batch) ∧
    (∀ cut, cut <+: batch.printed → cut ≠ batch.printed →
      ∃ cause, (decode cut).mapError ToolchainError.decode = .error (.decode cause)) ∧
    (∀ blanks b more, Blank blanks → isBlank b = false →
      ∃ position, (decode (batch.printed ++ blanks ++ b :: more)).mapError ToolchainError.decode =
        .error (.decode ⟨.trailingCharacters, position⟩)) := by
  have hwhole : ∀ before after, Blank before → Blank after →
      decode (before ++ batch.printed ++ after) = .ok batch := by
    intro before after hbefore hafter
    rw [List.append_assoc]
    exact parse_eq_ok (reads_printed batch hbefore after) hafter
  refine ⟨hwhole, ?_, ?_⟩
  · rintro cut ⟨more, hcut⟩ strict
    cases hdecode : decode cut with
    | error cause => exact ⟨cause, rfl⟩
    | ok other =>
      -- The whole would be what was decoded with blanks behind it.
      have hprinted := hwhole [] [] Blank.nil Blank.nil
      rw [List.nil_append, List.append_nil, ← hcut] at hprinted
      obtain ⟨-, hblank⟩ :=
        (parse_append_eq_ok_iff selfDelimiting_reader hdecode more).mp hprinted
      exact absurd hblank (not_blank_of_printed hcut strict)
  · intro blanks b more hblanks hb
    have hread := reads_printed batch Blank.nil (blanks ++ b :: more)
    rw [List.nil_append, ← List.append_assoc] at hread
    obtain ⟨position, hdecode⟩ := parse_of_trailing hread hblanks hb
    have hdecode : decode (batch.printed ++ blanks ++ b :: more) = _ := hdecode
    exact ⟨position, by rw [hdecode]; rfl⟩

/-- Two pages, one to the standard output with a quote, a control character and an emoji: with white
space around them, cut within the emoji, and with a second batch behind them. -/
theorem printed_decoded_whole_stdout :
    let batch : Batch := [⟨"::stdout", "<p>\"\\\x01😀</p>"⟩, ⟨"", "é\n"⟩]
    (decode ([byte ' ', byte '\t'] ++ batch.printed ++ [byte '\n']) = .ok batch) ∧
    (∃ cause, (decode (batch.printed.take 29)).mapError ToolchainError.decode =
      .error (.decode cause)) ∧
    (∃ position, (decode (batch.printed ++ [byte '\n'] ++ byte '[' :: [byte ']'])).mapError
      ToolchainError.decode = .error (.decode ⟨.trailingCharacters, position⟩)) := by
  intro batch
  obtain ⟨hwhole, hcut, htrailing⟩ := printed_decoded_whole batch
  have hafter : Blank [byte '\n'] := List.forall_mem_singleton.mpr rfl
  have hbefore : Blank [byte ' ', byte '\t'] :=
    List.forall_mem_cons.mpr ⟨rfl, List.forall_mem_singleton.mpr rfl⟩
  have hshort : batch.printed.take 29 ≠ batch.printed := by decide +kernel
  exact ⟨hwhole _ _ hbefore hafter, hcut _ (List.take_prefix _ _) hshort,
    htrailing _ _ _ hafter (by decide)⟩

end Batch

end ElmPrerender
