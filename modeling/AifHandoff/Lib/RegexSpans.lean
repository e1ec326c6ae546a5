import AifHandoff.Lib.RegexReads

/-!
What simple parts of a pattern read, as texts.

`Spans at_ read next` says that the text `read` lies between two positions. Literals, literals
in any case and repeated classes read a text of a known form, and nothing else of the
positions matters to them.
-/

namespace AifHandoff.Regex

/-- The text between two positions. -/
def Spans (at_ : Cursor) (read : List Char) (next : Cursor) : Prop :=
  at_.after = read ++ next.after ∧ next.before = read.reverse ++ at_.before

/-- The same text up to the case of ASCII letters. -/
def SameFold (cs ds : List Char) : Prop := cs.map Char.toLower = ds.map Char.toLower

instance (cs ds : List Char) : Decidable (SameFold cs ds) :=
  inferInstanceAs (Decidable (cs.map Char.toLower = ds.map Char.toLower))

theorem SameFold.length_eq {cs ds : List Char} (same : SameFold cs ds) :
    cs.length = ds.length := by
  have lengths := congrArg List.length same
  rwa [List.length_map, List.length_map] at lengths

section Spans

variable {at_ middle next : Cursor} {read read' : List Char}

theorem Spans.nothing (at_ : Cursor) : Spans at_ [] at_ := ⟨rfl, rfl⟩

theorem Spans.trans (first : Spans at_ read middle) (second : Spans middle read' next) :
    Spans at_ (read ++ read') next := by
  refine ⟨?_, ?_⟩
  · rw [first.1, second.1, List.append_assoc]
  · rw [second.2, first.2, List.reverse_append, List.append_assoc]

/-- Where a position leads to depends on the text read. -/
theorem spans_of_append (before read rest : List Char) :
    Spans ⟨before, read ++ rest⟩ read ⟨read.reverse ++ before, rest⟩ := ⟨rfl, rfl⟩

theorem Spans.eq (spans : Spans at_ read next) :
    next = ⟨read.reverse ++ at_.before, at_.after.drop read.length⟩ := by
  obtain ⟨after, before⟩ := spans
  cases next
  rw [after, List.drop_left]
  exact congrArg (Cursor.mk · _) before

end Spans

section Reads

variable {at_ next : Cursor}

theorem reads_cat_cons {r : Regex} {rs : List Regex} : Reads (cat (r :: rs)) at_ next ↔
    ∃ middle, Reads r at_ middle ∧ Reads (cat rs) middle next := Iff.rfl

theorem reads_cat_append (rs rs' : List Regex) : Reads (cat (rs ++ rs')) at_ next ↔
    ∃ middle, Reads (cat rs) at_ middle ∧ Reads (cat rs') middle next := by
  induction rs generalizing at_ with
  | nil =>
    refine ⟨fun reads => ⟨at_, rfl, reads⟩, ?_⟩
    rintro ⟨middle, stays, reads⟩
    obtain rfl : middle = at_ := stays
    exact reads
  | cons r rs ih =>
    rw [List.cons_append, reads_cat_cons]
    constructor
    · rintro ⟨first, here, rest⟩
      obtain ⟨middle, front, back⟩ := ih.mp rest
      exact ⟨middle, ⟨first, here, front⟩, back⟩
    · rintro ⟨middle, ⟨first, here, front⟩, back⟩
      exact ⟨first, here, ih.mpr ⟨middle, front, back⟩⟩

theorem reads_set_iff {accepts : Char → Bool} : Reads (.set accepts) at_ next ↔
    ∃ c, accepts c = true ∧ Spans at_ [c] next := by
  constructor
  · rintro ⟨c, rest, after, accepted, rfl⟩
    exact ⟨c, accepted, after, rfl⟩
  · rintro ⟨c, accepted, after, before⟩
    refine ⟨c, next.after, after, accepted, ?_⟩
    cases next
    exact congrArg (Cursor.mk · _) before

/-- A row of classes, each of the characters with one image, reads a text with that image. -/
theorem reads_images_iff (f : Char → Char) (cs : List Char) :
    Reads (cs.foldr (fun c r => .seq (.set fun d => f d == f c) r) .empty) at_ next ↔
      ∃ read, Spans at_ read next ∧ read.map f = cs.map f := by
  induction cs generalizing at_ with
  | nil =>
    constructor
    · intro stays
      obtain rfl : next = at_ := stays
      exact ⟨[], .nothing next, rfl⟩
    · rintro ⟨read, spans, same⟩
      obtain rfl := List.map_eq_nil_iff.mp same
      exact spans.eq
  | cons c cs ih =>
    constructor
    · rintro ⟨middle, first, rest⟩
      obtain ⟨d, accepted, one⟩ := reads_set_iff.mp first
      obtain ⟨read, spans, same⟩ := ih.mp rest
      refine ⟨d :: read, one.trans spans, ?_⟩
      rw [List.map_cons, List.map_cons, same, beq_iff_eq.mp accepted]
    · rintro ⟨read, spans, same⟩
      obtain ⟨d, read, rfl⟩ := List.exists_cons_of_ne_nil
        (show read ≠ [] by rintro rfl; cases same)
      obtain ⟨accepted, same⟩ := List.cons.inj same
      refine ⟨⟨d :: at_.before, read ++ next.after⟩, ?_, ih.mpr ⟨read, ⟨rfl, ?_⟩, same⟩⟩
      · exact ⟨d, read ++ next.after, spans.1, beq_iff_eq.mpr accepted, rfl⟩
      · rw [spans.2, List.reverse_cons, List.append_assoc]
        rfl

theorem reads_lit_iff (s : String) : Reads (lit s) at_ next ↔ Spans at_ s.toList next := by
  have images := @reads_images_iff at_ next id s.toList
  rw [List.map_id] at images
  refine images.trans ⟨?_, fun spans => ⟨_, spans, List.map_id _⟩⟩
  rintro ⟨read, spans, same⟩
  rw [List.map_id] at same
  exact same ▸ spans

theorem reads_litI_iff (s : String) :
    Reads (litI s) at_ next ↔ ∃ read, Spans at_ read next ∧ SameFold read s.toList :=
  reads_images_iff Char.toLower s.toList

/-- A repeated class reads a text of its characters. -/
theorem reads_many_iff {greedy : Bool} {accepts : Char → Bool} :
    Reads (.star greedy (.set accepts)) at_ next ↔
      ∃ read, Spans at_ read next ∧ ∀ c ∈ read, accepts c = true := by
  constructor
  · intro reads
    have only : AcceptsOnly (fun c => accepts c = true) (.star greedy (.set accepts)) :=
      fun _ accepted => accepted
    obtain ⟨read, after, before, all⟩ := reads.within only
    exact ⟨read, ⟨after, before⟩, all⟩
  · rintro ⟨read, spans, all⟩
    induction read generalizing at_ with
    | nil =>
      have stays := spans.eq
      rw [List.length_nil, List.drop_zero] at stays
      obtain rfl : next = at_ := stays
      exact .refl
    | cons c read ih =>
      obtain ⟨accepted, rest⟩ := List.forall_mem_cons.mp all
      have one : Reads (.set accepts) at_ ⟨c :: at_.before, read ++ next.after⟩ :=
        ⟨c, read ++ next.after, spans.1, accepted, rfl⟩
      refine .head ⟨one, ?_⟩ (ih ⟨rfl, ?_⟩ rest)
      · rw [spans.1]
        exact Nat.lt_succ_self _
      · rw [spans.2, List.reverse_cons, List.append_assoc]
        rfl

end Reads

end AifHandoff.Regex
