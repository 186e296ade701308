import ReportIndex.Workspace.Path

/-!
Contract: what paths made of other paths consist of.

Owns:
- the parts of a joined path, its parent and its other properties;
- the parts of a parent;
- names that stand for themselves in every path.

Does not own: what is found at a path.
-/

namespace ReportIndex.Path

/-! ## Parts of a list of characters -/

/-- The parts of a path, each as its characters. -/
def chunks (path : List Char) : List (List Char) :=
  (path.splitOn '/').filter (!·.isEmpty)

theorem parts_eq (path : String) : parts path = (chunks path.toList).map String.ofList := rfl

@[simp] theorem chunks_nil : chunks [] = [] := by
  simp [chunks]

theorem chunks_append_slash (front back : List Char) :
    chunks (front ++ '/' :: back) = chunks front ++ chunks back := by
  simp only [chunks, List.splitOn_append_cons_self, List.filter_append]

theorem chunks_of_not_mem
    {name : List Char}
    (nonempty : name ≠ [])
    (noSlash : '/' ∉ name) :
    chunks name = [name] := by
  simp [chunks, List.splitOn_eq_singleton noSlash, nonempty]

/-- What stands before the last part of a path: nothing, or something that ends
in a slash. -/
def IsLead (lead : List Char) : Prop :=
  lead = [] ∨ ∃ front, lead = front ++ ['/']

theorem IsLead.chunks_append
    {lead name : List Char}
    (isLead : IsLead lead)
    (nonempty : name ≠ [])
    (noSlash : '/' ∉ name) :
    chunks (lead ++ name) = chunks lead ++ [name] := by
  rcases isLead with rfl | ⟨front, rfl⟩
  · simp [chunks_of_not_mem nonempty noSlash]
  · rw [List.append_assoc, List.singleton_append, chunks_append_slash, chunks_append_slash,
      chunks_of_not_mem nonempty noSlash, chunks_nil, List.append_nil]

/-! ## Cleaning the end of a path -/

theorem dropTail_suffix (reversed : List Char) : dropTail reversed <:+ reversed := by
  fun_induction dropTail reversed with
  | case1 => exact List.suffix_rfl
  | case2 rest _ inductionHypothesis =>
      exact inductionHypothesis.trans (List.suffix_cons '/' rest)
  | case3 rest inductionHypothesis =>
      exact inductionHypothesis.trans (List.suffix_cons '.' ('/' :: rest))
  | case4 => exact List.suffix_rfl

theorem getLast?_dropTail (reversed : List Char) :
    (dropTail reversed).getLast? = reversed.getLast? := by
  fun_induction dropTail reversed with
  | case1 => rfl
  | case2 rest nonempty inductionHypothesis =>
      rw [inductionHypothesis, List.getLast?_cons_of_ne_nil (by simpa using nonempty)]
  | case3 rest inductionHypothesis =>
      rw [inductionHypothesis]
      rfl
  | case4 => rfl

theorem dropTail_eq_slash
    {reversed rest : List Char}
    (cleaned : dropTail reversed = '/' :: rest) :
    rest = [] := by
  fun_induction dropTail reversed with
  | case1 => simpa using cleaned.symm
  | case2 _ _ inductionHypothesis => exact inductionHypothesis cleaned
  | case3 _ inductionHypothesis => exact inductionHypothesis cleaned
  | case4 reversed _ notSlash _ => exact absurd cleaned (notSlash rest)

theorem dropTail_dropTail (reversed : List Char) :
    dropTail (dropTail reversed) = dropTail reversed := by
  fun_induction dropTail reversed with
  | case1 => simp [dropTail]
  | case2 _ _ inductionHypothesis => exact inductionHypothesis
  | case3 _ inductionHypothesis => exact inductionHypothesis
  | case4 reversed notRoot notSlash notDot => rw [dropTail.eq_4 _ notRoot notSlash notDot]

/-- Only single dots are dropped from the parts of a path when its end is
cleaned. -/
theorem chunks_dropTail (reversed : List Char) :
    ∃ dots, chunks reversed.reverse =
      chunks (dropTail reversed).reverse ++ List.replicate dots ['.'] := by
  fun_induction dropTail reversed with
  | case1 => exact ⟨0, by simp⟩
  | case2 rest _ inductionHypothesis =>
      obtain ⟨dots, parts⟩ := inductionHypothesis
      refine ⟨dots, ?_⟩
      rw [List.reverse_cons, chunks_append_slash, chunks_nil, List.append_nil, parts]
  | case3 rest inductionHypothesis =>
      obtain ⟨dots, parts⟩ := inductionHypothesis
      refine ⟨dots + 1, ?_⟩
      have dot : chunks ['.'] = [['.']] := chunks_of_not_mem (by simp) (by decide)
      rw [List.reverse_cons, chunks_append_slash, chunks_nil, List.append_nil] at parts
      rw [List.reverse_cons, List.reverse_cons, List.append_assoc, List.singleton_append,
        chunks_append_slash, dot, parts, List.append_assoc, ← List.replicate_succ']
  | case4 => exact ⟨0, by simp⟩

/-! ## Names -/

/-- A name that stands for itself wherever a path holds it. -/
structure IsName (name : String) : Prop where
  nonempty : name ≠ ""
  noSlash : '/' ∉ name.toList
  notHere : name ≠ "."
  notAbove : name ≠ ".."

instance (name : String) : Decidable (IsName name) :=
  decidable_of_iff (name ≠ "" ∧ '/' ∉ name.toList ∧ name ≠ "." ∧ name ≠ "..")
    ⟨fun ⟨nonempty, noSlash, notHere, notAbove⟩ => ⟨nonempty, noSlash, notHere, notAbove⟩,
      fun isName => ⟨isName.nonempty, isName.noSlash, isName.notHere, isName.notAbove⟩⟩

theorem IsName.toList_ne_nil
    {name : String}
    (isName : IsName name) :
    name.toList ≠ [] := by
  simpa using isName.nonempty

/-- Nothing is cleaned away from the end of a path that ends in a name. -/
theorem IsName.dropTail_append
    {name : String}
    (isName : IsName name)
    (lead : List Char) :
    dropTail (name.toList.reverse ++ lead) = name.toList.reverse ++ lead := by
  have noSlash : '/' ∉ name.toList.reverse := by simpa using isName.noSlash
  have notHere : name.toList.reverse ≠ ['.'] := by
    intro here
    have characters : name.toList = ['.'] := by simpa using congrArg List.reverse here
    exact isName.notHere (String.toList_injective characters)
  have nonempty : name.toList.reverse ≠ [] := by simpa using isName.nonempty
  generalize name.toList.reverse = reversed at noSlash notHere nonempty
  obtain ⟨first, rest, rfl⟩ := List.exists_cons_of_ne_nil nonempty
  have firstNotSlash : first ≠ '/' := by
    rintro rfl
    simp at noSlash
  refine dropTail.eq_4 _ ?_ ?_ ?_
  · intro root
    simp_all
  · intro _ slash
    simp_all
  · intro tail dot
    cases rest with
    | nil => simp_all
    | cons second others => simp_all

/-! ## Joined paths -/

/-- What stands before a name that is joined to a directory. -/
def leadOf (directory : String) : List Char :=
  match directory.toList.getLast? with
  | none => []
  | some '/' => directory.toList
  | some _ => directory.toList ++ ['/']

theorem toList_join (directory name : String) :
    (join directory name).toList = leadOf directory ++ name.toList := by
  rw [join, leadOf]
  generalize directory.toList.getLast? = last
  split
  next => simp
  next => simp
  next => simp_all

theorem leadOf_cases (directory : String) :
    (directory = "" ∧ leadOf directory = [])
      ∨ (∃ front, directory.toList = front ++ ['/'] ∧ leadOf directory = front ++ ['/'])
      ∨ (directory ≠ "" ∧ leadOf directory = directory.toList ++ ['/']) := by
  rw [leadOf]
  split
  next last =>
    left
    have empty : directory.toList = [] := List.getLast?_eq_none_iff.mp last
    exact ⟨by simpa using empty, rfl⟩
  next last =>
    right; left
    obtain ⟨front, characters⟩ := List.getLast?_eq_some_iff.mp last
    exact ⟨front, characters, characters⟩
  next last _ found =>
    right; right
    refine ⟨?_, rfl⟩
    rintro rfl
    simp at found

theorem isLead_leadOf (directory : String) : IsLead (leadOf directory) := by
  rcases leadOf_cases directory with ⟨_, lead⟩ | ⟨front, _, lead⟩ | ⟨_, lead⟩
  · exact .inl lead
  · exact .inr ⟨front, lead⟩
  · exact .inr ⟨directory.toList, lead⟩

theorem chunks_leadOf (directory : String) :
    chunks (leadOf directory) = chunks directory.toList := by
  rcases leadOf_cases directory with ⟨rfl, lead⟩ | ⟨front, characters, lead⟩ | ⟨_, lead⟩
  · rw [lead]
    rfl
  · rw [lead, characters]
  · rw [lead, chunks_append_slash, chunks_nil, List.append_nil]

theorem head?_leadOf (directory : String) :
    (leadOf directory).head? = directory.toList.head? := by
  rcases leadOf_cases directory with ⟨rfl, lead⟩ | ⟨front, characters, lead⟩ | ⟨nonempty, lead⟩
  · rw [lead]
    rfl
  · rw [lead, characters]
  · rw [lead, List.head?_append, List.head?_eq_some_head (by simpa using nonempty)]
    rfl

theorem parts_join
    {name : String}
    (isName : IsName name)
    (directory : String) :
    parts (join directory name) = parts directory ++ [name] := by
  rw [parts_eq, toList_join,
    (isLead_leadOf directory).chunks_append isName.toList_ne_nil isName.noSlash,
    chunks_leadOf, List.map_append, parts_eq]
  simp

theorem isAbsolute_eq (path : String) : isAbsolute path = (path.toList.head? == some '/') := by
  rw [isAbsolute]
  cases path.toList with
  | nil => rfl
  | cons first rest =>
      change ('/' == first && true) = (first == '/')
      rw [Bool.and_true, BEq.comm]

/-- A name without a slash does not change whether a path begins with one. -/
theorem head?_append_of_not_mem
    {name : List Char}
    (noSlash : '/' ∉ name)
    (lead : List Char) :
    ((lead ++ name).head? == some '/') = (lead.head? == some '/') := by
  cases lead with
  | cons first rest => rfl
  | nil =>
      cases name with
      | nil => rfl
      | cons first rest => simpa using Ne.symm (List.ne_of_not_mem_cons noSlash)

theorem isAbsolute_join
    {name : String}
    (isName : IsName name)
    (directory : String) :
    isAbsolute (join directory name) = isAbsolute directory := by
  rw [isAbsolute_eq, isAbsolute_eq, toList_join, head?_append_of_not_mem isName.noSlash,
    head?_leadOf]

theorem endsInSlash_join
    {name : String}
    (isName : IsName name)
    (directory : String) :
    endsInSlash (join directory name) = false := by
  rw [endsInSlash, toList_join, List.getLast?_append,
    List.getLast?_eq_some_getLast isName.toList_ne_nil, Option.some_or, beq_eq_false_iff_ne]
  intro last
  exact isName.noSlash (Option.some.inj last ▸ List.getLast_mem _)

theorem join_ne_empty
    {name : String}
    (isName : IsName name)
    (directory : String) :
    join directory name ≠ "" := by
  intro empty
  have characters := toList_join directory name
  simp [empty, isName.nonempty] at characters

/-- Only dashes and dots are the parts of a path that stands for the standard
output. -/
theorem eq_dash_or_dot_of_isStandardOutput
    {path part : String}
    (standard : isStandardOutput path = true)
    (member : part ∈ parts path) :
    part = "-" ∨ part = "." := by
  rw [isStandardOutput] at standard
  rw [parts, List.mem_map] at member
  obtain ⟨characters, member, rfl⟩ := member
  rw [List.mem_filter] at member
  split at standard
  next first rest split =>
    rw [split, List.mem_cons] at member
    rw [Bool.and_eq_true, beq_iff_eq, List.all_eq_true] at standard
    rcases member with ⟨rfl | inRest, nonempty⟩
    · left
      rw [standard.1]
    · right
      have dot := standard.2 characters inRest
      rw [(Bool.not_eq_true' _).mp nonempty, Bool.false_or, beq_iff_eq] at dot
      rw [dot]
  next => exact absurd standard Bool.false_ne_true

/-! ## Cleaned paths -/

/-- A path without slashes and single dots at its end. -/
def IsCleaned (path : String) : Prop :=
  dropTail path.toList.reverse = path.toList.reverse

/-- What stands before a path's last name, without slashes and single dots at
its end. -/
def cleanedLead (lead : List Char) : String :=
  String.ofList (dropTail lead.reverse).reverse

/-- The path of the directory that a name has been joined to, as `parent?` gives
it. -/
def cleaned (directory : String) : String :=
  cleanedLead (leadOf directory)

theorem isCleaned_cleanedLead (lead : List Char) : IsCleaned (cleanedLead lead) := by
  rw [IsCleaned, cleanedLead, String.toList_ofList, List.reverse_reverse, dropTail_dropTail]

theorem isCleaned_cleaned (directory : String) : IsCleaned (cleaned directory) :=
  isCleaned_cleanedLead (leadOf directory)

theorem parts_cleanedLead (lead : List Char) :
    ∃ dots, (chunks lead).map String.ofList =
      parts (cleanedLead lead) ++ List.replicate dots "." := by
  obtain ⟨dots, split⟩ := chunks_dropTail lead.reverse
  rw [List.reverse_reverse] at split
  refine ⟨dots, ?_⟩
  rw [split, List.map_append, List.map_replicate, parts_eq, cleanedLead, String.toList_ofList]

theorem parts_cleaned (directory : String) :
    ∃ dots, parts directory = parts (cleaned directory) ++ List.replicate dots "." := by
  rw [parts_eq, ← chunks_leadOf]
  exact parts_cleanedLead (leadOf directory)

theorem isAbsolute_cleanedLead (lead : List Char) :
    isAbsolute (cleanedLead lead) = (lead.head? == some '/') := by
  rw [isAbsolute_eq, cleanedLead, String.toList_ofList, List.head?_reverse, getLast?_dropTail,
    List.getLast?_reverse]

theorem isAbsolute_cleaned (directory : String) :
    isAbsolute (cleaned directory) = isAbsolute directory := by
  rw [cleaned, isAbsolute_cleanedLead, head?_leadOf, isAbsolute_eq]

theorem toList_cleanedLead_begins (lead : List Char) : (cleanedLead lead).toList <+: lead := by
  rw [cleanedLead, String.toList_ofList, ← List.reverse_suffix, List.reverse_reverse]
  exact dropTail_suffix lead.reverse

theorem IsName.isCleaned_join
    {name : String}
    (isName : IsName name)
    (directory : String) :
    IsCleaned (join directory name) := by
  rw [IsCleaned, toList_join, List.reverse_append, isName.dropTail_append]

theorem cleaned_join
    {name : String}
    (isName : IsName name)
    (directory : String) :
    cleaned (join directory name) = join directory name := by
  have lead : leadOf (join directory name) = (join directory name).toList ++ ['/'] := by
    rcases leadOf_cases (join directory name) with ⟨empty, _⟩ | ⟨front, ends, _⟩ | ⟨_, lead⟩
    · exact absurd empty (join_ne_empty isName directory)
    · have noSlash := endsInSlash_join isName directory
      simp [endsInSlash, ends] at noSlash
    · exact lead
  have nonempty : (join directory name).toList.reverse ≠ [] := by
    simpa using join_ne_empty isName directory
  rw [cleaned, cleanedLead, lead, List.reverse_concat, dropTail.eq_2 _ nonempty,
    isName.isCleaned_join, List.reverse_reverse, String.ofList_toList]

/-! ## Parents -/

/-- The parent of a cleaned path is what stands before its last name, cleaned. -/
theorem parent?_of_isCleaned
    {path : String}
    {lead name : List Char}
    (isCleaned : IsCleaned path)
    (split : path.toList = lead ++ name)
    (isLead : IsLead lead)
    (nonempty : name ≠ [])
    (noSlash : '/' ∉ name) :
    parent? path = some (cleanedLead lead) := by
  have nameFirst : ∀ character ∈ name.reverse, (character != '/') = true := by
    intro character member
    rw [bne_iff_ne]
    rintro rfl
    exact noSlash (List.mem_reverse.mp member)
  have above : (name.reverse ++ lead.reverse).dropWhile (· != '/') = lead.reverse := by
    rw [List.dropWhile_append_of_pos nameFirst]
    rcases isLead with rfl | ⟨front, rfl⟩ <;> simp
  rw [parent?, isCleaned, split, List.reverse_append]
  split
  next empty => simp [nonempty] at empty
  next root =>
    cases reversed : name.reverse with
    | nil => simp [nonempty] at reversed
    | cons first rest =>
        rw [reversed, List.cons_append, List.cons.injEq] at root
        simp [reversed, root.1] at nameFirst
  next =>
    rw [above, cleanedLead]
    cases lead.reverse with
    | nil => simp [dropTail]
    | cons first rest => rfl

theorem parent?_join
    {name : String}
    (isName : IsName name)
    (directory : String) :
    parent? (join directory name) = some (cleaned directory) :=
  parent?_of_isCleaned (isName.isCleaned_join directory) (toList_join directory name)
    (isLead_leadOf directory) isName.toList_ne_nil isName.noSlash

/-- A cleaned path that is neither empty nor the root ends in a name. -/
theorem exists_lead_of_isCleaned
    {path : String}
    (isCleaned : IsCleaned path)
    (nonempty : path ≠ "")
    (notRoot : path ≠ "/") :
    ∃ lead name, path.toList = lead ++ name ∧ IsLead lead ∧ name ≠ [] ∧ '/' ∉ name := by
  have split := List.takeWhile_append_dropWhile (p := (· != '/')) (l := path.toList.reverse)
  have noSlash : '/' ∉ path.toList.reverse.takeWhile (· != '/') := by
    intro member
    have kept := List.all_eq_true.mp List.all_takeWhile '/' member
    simp at kept
  have characters : path.toList =
      (path.toList.reverse.dropWhile (· != '/')).reverse
        ++ (path.toList.reverse.takeWhile (· != '/')).reverse := by
    rw [← List.reverse_append, split, List.reverse_reverse]
  refine ⟨_, _, characters, ?_, ?_, by simpa using noSlash⟩
  · cases rest : path.toList.reverse.dropWhile (· != '/') with
    | nil => exact .inl rfl
    | cons first others =>
        have first : first = '/' := by
          have := List.head?_dropWhile_not (· != '/') path.toList.reverse
          simpa [rest] using this
        subst first
        exact .inr ⟨others.reverse, by simp⟩
  · intro noName
    rw [List.reverse_eq_nil_iff] at noName
    rw [noName, List.nil_append] at split
    cases reversed : path.toList.reverse with
    | nil => simp [nonempty] at reversed
    | cons first others =>
        have first : first = '/' := by simpa [reversed, List.takeWhile_cons] using noName
        rw [IsCleaned, reversed, first] at isCleaned
        rw [dropTail_eq_slash isCleaned, first] at reversed
        have root : path.toList = ['/'] := by simpa using congrArg List.reverse reversed
        exact notRoot (String.toList_injective root)

/-- What the parent of a cleaned path has in common with the path. -/
structure IsParent (path parent : String) : Prop where
  isCleaned : IsCleaned parent
  isAbsolute : isAbsolute parent = isAbsolute path
  begins : parent.toList <+: path.toList
  shorter : parent.length < path.length
  parts : ∃ dots name, parts path = Path.parts parent ++ List.replicate dots "." ++ [name]

theorem exists_isParent_of_isCleaned
    {path : String}
    (isCleaned : IsCleaned path)
    (nonempty : path ≠ "")
    (notRoot : path ≠ "/") :
    ∃ parent, parent? path = some parent ∧ IsParent path parent := by
  obtain ⟨lead, name, split, isLead, hasName, noSlash⟩ :=
    exists_lead_of_isCleaned isCleaned nonempty notRoot
  have begins := toList_cleanedLead_begins lead
  refine ⟨_, parent?_of_isCleaned isCleaned split isLead hasName noSlash,
    isCleaned_cleanedLead lead, ?_, ?_, ?_, ?_⟩
  · rw [isAbsolute_cleanedLead, isAbsolute_eq, split, head?_append_of_not_mem noSlash]
  · rw [split]
    exact begins.trans (List.prefix_append lead name)
  · rw [← String.length_toList, ← String.length_toList, split, List.length_append]
    have := begins.length_le
    have := List.length_pos_iff.mpr hasName
    omega
  · obtain ⟨dots, parts⟩ := parts_cleanedLead lead
    refine ⟨dots, String.ofList name, ?_⟩
    rw [parts_eq, split, isLead.chunks_append hasName noSlash, List.map_append, parts]
    rfl

theorem IsCleaned.isParent
    {path parent : String}
    (isCleaned : IsCleaned path)
    (found : parent? path = some parent) :
    IsParent path parent := by
  have nonempty : path ≠ "" := by
    rintro rfl
    simp [parent?, dropTail] at found
  have notRoot : path ≠ "/" := by
    rintro rfl
    simp [parent?, dropTail] at found
  obtain ⟨other, same, isParent⟩ := exists_isParent_of_isCleaned isCleaned nonempty notRoot
  rw [found, Option.some.injEq] at same
  exact same ▸ isParent

end ReportIndex.Path
