import ReportIndex.Proofs.Asset.Address

/-!
Contract: which spellings of an asset root come to the same.

Owns:
- what a spelling is without the blanks and slashes around it;
- the spellings whose root is just that: all slashes at the end stand before all blanks;
- the other spellings, whose root keeps a blank at its end, so that it would change if it
  were spelled again.

Does not own: the addresses under a root.
-/

namespace ReportIndex.AssetRoot

open Text (isBlank dropEndWhile trimBlanks)

/-! ## Spellings -/

/-- Blanks and slashes may stand in any order at the end of a root. -/
def isEnding (character : Char) : Bool :=
  isBlank character || character == '/'

/-- A spelling without blanks at its beginning, and without blanks and slashes at its
end. Spellings that differ in nothing else have the same core. -/
def core (text : String) : List Char :=
  dropEndWhile isEnding (text.toList.dropWhile isBlank)

/-- Behind the core there are first slashes, then blanks. -/
def IsTidy (text : String) : Prop :=
  ∃ slashes blanks,
    text.toList.dropWhile isBlank = core text ++ slashes ++ blanks
      ∧ (∀ character ∈ slashes, character = '/')
      ∧ ∀ character ∈ blanks, isBlank character = true

/-- No blank at the end. -/
def EndsVisibly (characters : List Char) : Prop :=
  ∀ last, characters.getLast? = some last → isBlank last = false

theorem toList_base_ofText (text : String) :
    (ofText text).base.toList = dropEndWhile (· == '/') (trimBlanks text.toList) :=
  String.toList_ofList

theorem isEnding_getLast?_core
    {text : String}
    {last : Char}
    (found : (core text).getLast? = some last) :
    isBlank last = false ∧ last ≠ '/' := by
  have kept := Text.kept_of_getLast?_dropEndWhile found
  simpa [isEnding] using kept

/-! ## The root of a spelling -/

/-- What is dropped behind a root: slashes, and behind them blanks. -/
theorem exists_spelled (text : String) :
    ∃ slashes blanks,
      text.toList.dropWhile isBlank = (ofText text).base.toList ++ slashes ++ blanks
        ∧ (∀ character ∈ slashes, character = '/')
        ∧ ∀ character ∈ blanks, isBlank character = true := by
  obtain ⟨blanks, visible, allBlank⟩ :=
    Text.exists_dropEndWhile_append isBlank (text.toList.dropWhile isBlank)
  obtain ⟨slashes, root, allSlashes⟩ :=
    Text.exists_dropEndWhile_append (· == '/') (trimBlanks text.toList)
  refine ⟨slashes, blanks, ?_, fun character member => ?_, allBlank⟩
  · rw [toList_base_ofText, ← root]
    exact visible
  · simpa using allSlashes character member

/-- A root does not begin with a blank. -/
theorem head?_base_ofText
    {text : String}
    {first : Char}
    (begins : (ofText text).base.toList.head? = some first) :
    isBlank first = false := by
  obtain ⟨slashes, blanks, spelled, _⟩ := exists_spelled text
  have visible := List.head?_dropWhile_not isBlank text.toList
  rw [spelled, List.append_assoc, List.head?_append, begins] at visible
  exact visible

/-- The root of a tidy spelling is its core. -/
theorem IsTidy.base_eq_core
    {text : String}
    (tidy : IsTidy text) :
    (ofText text).base.toList = core text := by
  obtain ⟨slashes, blanks, spelled, allSlashes, allBlank⟩ := tidy
  have visible : dropEndWhile isBlank (core text ++ slashes) = core text ++ slashes := by
    refine Text.dropEndWhile_eq_self fun last found => ?_
    rw [List.getLast?_append, Option.or_eq_some_iff] at found
    rcases found with inSlashes | ⟨_, inCore⟩
    · rw [allSlashes last (List.mem_of_getLast? inSlashes)]
      decide
    · exact (isEnding_getLast?_core inCore).1
  have noSlash : dropEndWhile (· == '/') (core text) = core text := by
    refine Text.dropEndWhile_eq_self fun last found => ?_
    simpa using (isEnding_getLast?_core found).2
  rw [toList_base_ofText, trimBlanks, spelled, Text.dropEndWhile_append_of_all allBlank, visible,
    Text.dropEndWhile_append_of_all (fun character member => by simp [allSlashes character member]),
    noSlash]

/-- Nothing of the core is dropped. -/
theorem core_eq_dropEndWhile_base (text : String) :
    core text = dropEndWhile isEnding (ofText text).base.toList := by
  obtain ⟨slashes, blanks, spelled, allSlashes, allBlank⟩ := exists_spelled text
  rw [core, spelled, List.append_assoc]
  refine Text.dropEndWhile_append_of_all (fun character member => ?_) _
  rcases List.mem_append.mp member with inSlashes | inBlanks
  · simp [isEnding, allSlashes character inSlashes]
  · simp [isEnding, allBlank character inBlanks]

theorem core_eq_base
    {text : String}
    (visible : EndsVisibly (ofText text).base.toList) :
    core text = (ofText text).base.toList := by
  rw [core_eq_dropEndWhile_base]
  refine Text.dropEndWhile_eq_self fun last found => ?_
  have notSlash : last ≠ '/' := fun slash => getLast?_base_ofText text (slash ▸ found)
  simp [isEnding, visible last found, notSlash]

/-- Only the root of a tidy spelling ends visibly. -/
theorem endsVisibly_base_iff (text : String) :
    EndsVisibly (ofText text).base.toList ↔ IsTidy text := by
  constructor
  · intro visible
    rw [IsTidy, core_eq_base visible]
    exact exists_spelled text
  · intro tidy last found
    rw [tidy.base_eq_core] at found
    exact (isEnding_getLast?_core found).1

theorem base_eq_core_iff (text : String) :
    (ofText text).base.toList = core text ↔ IsTidy text := by
  constructor
  · intro isCore
    rw [← endsVisibly_base_iff, isCore]
    exact fun last found => (isEnding_getLast?_core found).1
  · exact IsTidy.base_eq_core

/-! ## Spelling a root again -/

theorem trimBlanks_base (text : String) :
    trimBlanks (ofText text).base.toList = dropEndWhile isBlank (ofText text).base.toList := by
  have begins : (ofText text).base.toList.dropWhile isBlank = (ofText text).base.toList := by
    cases whole : (ofText text).base.toList with
    | nil => rfl
    | cons first rest =>
        have visible : isBlank first = false := head?_base_ofText (by rw [whole, List.head?_cons])
        exact List.dropWhile_cons_of_neg (Bool.eq_false_iff.mp visible)
  rw [trimBlanks, begins]

theorem eq_iff_toList_base (root other : AssetRoot) :
    root = other ↔ root.base.toList = other.base.toList := by
  cases root
  cases other
  rw [String.toList_inj, mk.injEq]

/-- A root is its own root exactly if it ends visibly. -/
theorem ofText_base_eq_iff (text : String) :
    ofText (ofText text).base = ofText text ↔ EndsVisibly (ofText text).base.toList := by
  have noSlash := getLast?_base_ofText text
  rw [eq_iff_toList_base, toList_base_ofText (ofText text).base, trimBlanks_base]
  generalize (ofText text).base.toList = root at noSlash
  constructor
  · intro same last found
    obtain ⟨blanks, cutBlanks, _⟩ := Text.exists_dropEndWhile_append isBlank root
    obtain ⟨slashes, cutSlashes, _⟩ :=
      Text.exists_dropEndWhile_append (· == '/') (dropEndWhile isBlank root)
    -- Neither pass has dropped anything, as all of the root is still there.
    have nothing : slashes = [] := by
      rw [cutSlashes, same, List.append_assoc, List.self_eq_append_right] at cutBlanks
      exact (List.append_eq_nil_iff.mp cutBlanks).1
    rw [same, nothing, List.append_nil] at cutSlashes
    rw [← cutSlashes] at found
    exact Text.kept_of_getLast?_dropEndWhile found
  · intro visible
    rw [Text.dropEndWhile_eq_self visible]
    refine Text.dropEndWhile_eq_self fun last found => ?_
    have notSlash : last ≠ '/' := fun slash => noSlash (slash ▸ found)
    simpa using notSlash

/-! ## Spellings of one core -/

theorem address_ofText_eq_iff (text other : String) :
    (∀ shade index, (ofText text).address shade index = (ofText other).address shade index) ↔
      (ofText text).base = (ofText other).base := by
  constructor
  · intro same
    exact ((address_eq_iff _ _ _ _ _ _).mp (same .light 0)).1
  · intro sameBase shade index
    exact (address_eq_iff _ _ _ _ _ _).mpr ⟨sameBase, rfl, rfl⟩

/-- A spelling has the addresses of a tidy one with the same core exactly if it is tidy
itself. -/
theorem address_eq_of_core_eq_iff
    {text other : String}
    (tidy : IsTidy text)
    (sameCore : core other = core text) :
    (∀ shade index, (ofText other).address shade index = (ofText text).address shade index) ↔
      IsTidy other := by
  rw [address_ofText_eq_iff, ← base_eq_core_iff, ← String.toList_inj, tidy.base_eq_core, sameCore]

/-- **When the root of a spelling is a normal form.** It never begins with a blank or
ends in a slash. It ends in no blank, and is its own root, exactly if all slashes at the
end of the spelling stand before all blanks. Spellings that differ only in the blanks and
slashes around them have the same addresses if both are such; and if only one of them is,
they do not. -/
theorem root_normal_iff (text : String) :
    (∀ first, (ofText text).base.toList.head? = some first → isBlank first = false)
      ∧ (ofText text).base.toList.getLast? ≠ some '/'
      ∧ ((∀ last, (ofText text).base.toList.getLast? = some last → isBlank last = false) ↔
          IsTidy text)
      ∧ (ofText (ofText text).base = ofText text ↔ IsTidy text)
      ∧ (IsTidy text →
          ∀ other, core other = core text →
            ((∀ shade index,
                (ofText other).address shade index = (ofText text).address shade index) ↔
              IsTidy other)) := by
  refine ⟨fun _ => head?_base_ofText, getLast?_base_ofText text, endsVisibly_base_iff text, ?_,
    fun tidy other sameCore => address_eq_of_core_eq_iff tidy sameCore⟩
  rw [ofText_base_eq_iff, endsVisibly_base_iff]

/-- Blanks of two kinds, and slashes in front of them. -/
theorem root_normal_of_padded :
    let text := "\t/img//\u00a0 "
    IsTidy text
      ∧ core "/img/" = core text
      ∧ ofText (ofText text).base = ofText text
      ∧ ∀ shade index, (ofText "/img/").address shade index = (ofText text).address shade index := by
  intro text
  have tidy : IsTidy text := ⟨['/', '/'], ['\u00a0', ' '], by decide, by simp, by simp [isBlank]⟩
  have otherTidy : IsTidy "/img/" := ⟨['/'], [], by decide, by simp, by simp⟩
  have sameCore : core "/img/" = core text := by decide
  obtain ⟨_, _, _, own, sameAddresses⟩ := root_normal_iff text
  exact ⟨tidy, sameCore, own.mpr tidy, (sameAddresses tidy "/img/" sameCore).mpr otherTidy⟩

/-- With a blank in front of the last slash, the blank stays; as the root is spelled
again, it goes. -/
theorem blank_before_slash_stays :
    core "/img /" = core "/img"
      ∧ (ofText "/img /").base = "/img "
      ∧ ofText (ofText "/img /").base ≠ ofText "/img /"
      ∧ (ofText "/img /").address .light 0 ≠ (ofText "/img").address .light 0 := by
  decide

end ReportIndex.AssetRoot
