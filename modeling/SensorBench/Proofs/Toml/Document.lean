import SensorBench.Proofs.Toml.Value

/-!
# Written documents read back

A record of tables with plain keys, no key twice, is read back from its text
(`Toml.read?_pretty`). Line by line the reader appends to the tables it has read: a header
appends an empty table, and a line under it appends a member to the last table.
-/

set_option autoImplicit false

namespace SensorBench.Toml

/-! ## Keys -/

/-- The keys that need no quotes. -/
def IsBareKey (key : String) : Prop := key.toList ≠ [] ∧ key.toList.all isBare = true

instance (key : String) : Decidable (IsBareKey key) := inferInstanceAs (Decidable (_ ∧ _))

section Key

variable {key : String} {rest : List Char}

theorem isInk_of_isBare {c : Char} (hc : isBare c = true) : IsInk c := by
  have hne : ∀ {d}, isBare d = false → c ≠ d := ne_of_holds hc
  exact ⟨hne rfl, hne rfl, hne rfl, hne rfl, hne rfl⟩

/-- A plain key begins with a character of its own. -/
theorem IsBareKey.head (hkey : IsBareKey key) :
    ∃ c more, key.toList = c :: more ∧ isBare c = true := by
  obtain ⟨hne, hbare⟩ := hkey
  cases htext : key.toList with
  | nil => exact absurd htext hne
  | cons c more =>
    exact ⟨c, more, rfl, List.all_eq_true.1 hbare c (htext ▸ List.mem_cons_self)⟩

theorem keyPart?_bare (hkey : IsBareKey key) (hrest : ∀ c ∈ rest.head?, isBare c = false) :
    keyPart? (key.toList ++ rest) = some (key, rest) := by
  have hspan := Text.span_append (List.all_eq_true.1 hkey.2) hrest
  obtain ⟨c, more, htext, -⟩ := hkey.head
  rw [keyPart?, hspan, htext, ← String.ofList_toList (s := key), htext]

theorem key?_bare (hkey : IsBareKey key) (hrest : ∀ c ∈ rest.head?, isBare c = false)
    (hpoint : ∀ c ∈ (skipBlanks rest).head?, c ≠ '.') (fuel : Nat) :
    key? (fuel + 1) (key.toList ++ rest) = some ([key], skipBlanks rest) := by
  have hskip : skipBlanks (key.toList ++ rest) = key.toList ++ rest := by
    obtain ⟨c, more, htext, hc⟩ := hkey.head
    rw [htext, List.cons_append, skipBlanks_ink (isInk_of_isBare hc)]
  rw [key?, hskip, keyPart?_bare hkey hrest]
  simp only [Option.bind_eq_bind, Option.bind_some]
  split
  · next heq => exact absurd rfl (hpoint '.' (by rw [heq]; rfl))
  · rfl

end Key

/-! ## Tables under construction -/

section Entries

variable {es : Entries} {key : String} {n : Node}

theorem lookup_new (h : key ∉ es.map Prod.fst) : es.lookup key = none := by
  rw [List.lookup_eq_none_iff]
  intro p hp
  rw [bne_iff_ne]
  rintro rfl
  exact h (List.mem_map_of_mem hp)

theorem lookup_last (h : key ∉ es.map Prod.fst) : (es ++ [(key, n)]).lookup key = some n := by
  rw [List.lookup_append, lookup_new h]
  simp

theorem put_new (h : key ∉ es.map Prod.fst) : Entries.put key n es = es ++ [(key, n)] := by
  induction es with
  | nil => rfl
  | cons e es ih =>
    obtain ⟨k, m⟩ := e
    rw [List.map_cons, List.mem_cons, not_or] at h
    rw [Entries.put, if_neg (Ne.symm h.1), ih h.2, List.cons_append]

theorem put_last {m : Node} (h : key ∉ es.map Prod.fst) :
    Entries.put key m (es ++ [(key, n)]) = es ++ [(key, m)] := by
  induction es with
  | nil => exact if_pos rfl
  | cons e es ih =>
    obtain ⟨k, l⟩ := e
    rw [List.map_cons, List.mem_cons, not_or] at h
    rw [List.cons_append, Entries.put, if_neg (Ne.symm h.1), ih h.2, List.cons_append]

/-- Of distinct keys the next one is new. -/
theorem new_of_nodup {keys rest : List String} (h : (keys ++ key :: rest).Nodup) : key ∉ keys :=
  fun hmem => (List.nodup_append.1 h).2.2 key hmem key List.mem_cons_self rfl

end Entries

/-- A document whose last table was opened by its header. -/
def underHeader (done : Entries) (name : String) (entries : Entries) : Document :=
  ⟨[name], done ++ [(name, .table .header entries)]⟩

/-- A line under a header. -/
def memberLine (m : String × Data) : List Char :=
  m.1.toList ++ [' ', '=', ' '] ++ (value m.2).toList ++ ['\n']

section Line

variable {done entries : Entries} {name key : String} {x : Data} {rest : List Char}

/-- A new key is set in the table of the last header. -/
theorem inTable_assign (hname : name ∉ done.map Prod.fst) (hnew : key ∉ entries.map Prod.fst) :
    Entries.inTable (Entries.assign x [key]) [name] (underHeader done name entries).root =
      some (underHeader done name (entries ++ [(key, .value x)])).root := by
  have hassign : Entries.assign x [key] entries = some (entries ++ [(key, .value x)]) := by
    rw [Entries.assign, lookup_new hnew]
    rfl
  rw [underHeader, Entries.inTable, Entries.within, lookup_last hname]
  dsimp only
  rw [if_pos rfl, Entries.inTable, hassign, Option.map_some, put_last hname]
  rfl

theorem header?_table (hname : IsBareKey name) (hnew : name ∉ done.map Prod.fst)
    (header : List String) : header? ⟨header, done⟩ (name.toList ++ ']' :: rest) =
      some (underHeader done name [], rest) := by
  have hpoint : ∀ c ∈ (skipBlanks (']' :: rest)).head?, c ≠ '.' := by
    rw [skipBlanks_ink (by decide)]
    simp
  have hkey := key?_bare hname (by simp; rfl) hpoint (name.toList ++ ']' :: rest).length
  rw [skipBlanks_ink (by decide)] at hkey
  obtain ⟨c, more, htext, hc⟩ := hname.head
  rw [htext, List.cons_append] at hkey ⊢
  rw [header?.eq_def]
  split
  · next heq => exact absurd (List.cons.inj heq).1 (ne_of_holds hc rfl)
  · rw [hkey]
    simp only [Option.bind_eq_bind, Option.bind_some, after?, if_true, Entries.openTable,
      lookup_new hnew, put_new hnew]
    rfl

theorem assignment?_member (hkey : IsBareKey key) (hx : Fits x) (hname : name ∉ done.map Prod.fst)
    (hnew : key ∉ entries.map Prod.fst) (rest : List Char) :
    assignment? (underHeader done name entries) (memberLine (key, x) ++ rest) =
      some (underHeader done name (entries ++ [(key, .value x)]), '\n' :: rest) := by
  have htext : memberLine (key, x) ++ rest =
      key.toList ++ ' ' :: '=' :: ' ' :: ((value x).toList ++ '\n' :: rest) := by
    simp [memberLine]
  have hequals : skipBlanks (' ' :: '=' :: ' ' :: ((value x).toList ++ '\n' :: rest)) =
      '=' :: ' ' :: ((value x).toList ++ '\n' :: rest) := by
    rw [skipBlanks, if_pos (Or.inl rfl), skipBlanks_ink (by decide)]
  have hblank : skipBlanks (' ' :: ((value x).toList ++ '\n' :: rest)) =
      (value x).toList ++ '\n' :: rest := by
    obtain ⟨c, more, hvalue, hc⟩ := value_head hx
    rw [skipBlanks, if_pos (Or.inl rfl), hvalue, List.cons_append, skipBlanks_ink hc]
  have hends : EndsValue ('\n' :: rest) := by simp [EndsValue]
  have hread := value?_value hx hends
    (Nat.lt_succ_of_lt (Nat.lt_succ_self ((value x).toList ++ '\n' :: rest).length))
  rw [htext, assignment?, key?_bare hkey (by simp; rfl) (by rw [hequals]; simp), hequals]
  simp only [Option.bind_eq_bind, Option.bind_some, after?, if_true, hblank]
  rw [List.length_cons, hread, Option.bind_some]
  show (Entries.inTable (Entries.assign x [key]) [name] _).bind _ = _
  rw [inTable_assign hname hnew]
  rfl

end Line

/-! ## Lines -/

/-- With fuel for every character a text adds its tables to a document. -/
def Reads (doc : Document) (text : List Char) (root : Entries) : Prop :=
  ∀ fuel, text.length < fuel → (lines? fuel doc text).map (·.root) = some root

theorem finishLine?_lineFeed (rest : List Char) : finishLine? ('\n' :: rest) = some rest := rfl

namespace Reads

variable {doc : Document} {done entries root : Entries} {name key : String} {x : Data}
  {rest : List Char}

theorem nil (doc : Document) : Reads doc [] doc.root := by
  intro fuel hfuel
  obtain ⟨fuel, rfl⟩ : ∃ k, fuel = k + 1 := ⟨fuel - 1, by omega⟩
  rfl

theorem blank (h : Reads doc rest root) : Reads doc ('\n' :: rest) root := by
  intro fuel hfuel
  obtain ⟨fuel, rfl⟩ : ∃ k, fuel = k + 1 := ⟨fuel - 1, by omega⟩
  rw [lines?, List.length_cons, skipLayout?_lineFeed, ← lines?]
  exact h _ (by simp at hfuel; omega)

theorem header {header : List String} (hname : IsBareKey name) (hnew : name ∉ done.map Prod.fst)
    (h : Reads (underHeader done name []) rest root) :
    Reads ⟨header, done⟩ ('[' :: (name.toList ++ ']' :: '\n' :: rest)) root := by
  intro fuel hfuel
  obtain ⟨fuel, rfl⟩ : ∃ k, fuel = k + 1 := ⟨fuel - 1, by omega⟩
  rw [lines?, skipLayout?_ink (by decide)]
  simp only [Option.bind_eq_bind, Option.bind_some]
  rw [header?_table hname hnew]
  simp only [Option.bind_some, finishLine?_lineFeed]
  exact h _ (by simp at hfuel; omega)

theorem member (hkey : IsBareKey key) (hx : Fits x) (hname : name ∉ done.map Prod.fst)
    (hnew : key ∉ entries.map Prod.fst)
    (h : Reads (underHeader done name (entries ++ [(key, .value x)])) rest root) :
    Reads (underHeader done name entries) (memberLine (key, x) ++ rest) root := by
  intro fuel hfuel
  obtain ⟨fuel, rfl⟩ : ∃ k, fuel = k + 1 := ⟨fuel - 1, by omega⟩
  have hassign := assignment?_member hkey hx hname hnew rest
  obtain ⟨c, more, htext, hc⟩ := hkey.head
  have hline : memberLine (key, x) ++ rest =
      c :: (more ++ ' ' :: '=' :: ' ' :: ((value x).toList ++ '\n' :: rest)) := by
    simp [memberLine, htext]
  rw [hline] at hassign hfuel ⊢
  rw [lines?, skipLayout?_ink (isInk_of_isBare hc)]
  simp only [Option.bind_eq_bind, Option.bind_some]
  -- a line that begins with a key is neither the end of the text nor a header
  split
  · next heq => cases heq
  · next heq => exact absurd (List.cons.inj heq).1 (ne_of_holds hc rfl)
  · rw [hassign]
    simp only [Option.bind_some, finishLine?_lineFeed]
    exact h _ (by simp at hfuel; omega)

end Reads

/-! ## Tables -/

/-- The members of a table: plain keys, each once, with values that documents have. -/
def TableMembers (members : List (String × Data)) : Prop :=
  (members.map Prod.fst).Nodup ∧ ∀ m ∈ members, IsBareKey m.1 ∧ Fits m.2

/-- The records that are documents: tables under plain keys, each once. -/
def Tabular : Data → Prop
  | .record sections => (sections.map Prod.fst).Nodup ∧ ∀ s ∈ sections,
      IsBareKey s.1 ∧ ∃ members, s.2 = .record members ∧ TableMembers members
  | _ => False

/-- Keys are looked at apart from values. -/
theorem TableMembers.of_keys {members : List (String × Data)} (keys : List String)
    (hkeys : members.map Prod.fst = keys) (hbare : keys.Nodup ∧ ∀ key ∈ keys, IsBareKey key)
    (hfits : ∀ m ∈ members, Fits m.2) : TableMembers members := by
  subst hkeys
  exact ⟨hbare.1, fun m hm => ⟨hbare.2 m.1 (List.mem_map_of_mem hm), hfits m hm⟩⟩

theorem Tabular.of_keys {sections : List (String × Data)} (keys : List String)
    (hkeys : sections.map Prod.fst = keys) (hbare : keys.Nodup ∧ ∀ key ∈ keys, IsBareKey key)
    (htables : ∀ s ∈ sections, ∃ members, s.2 = .record members ∧ TableMembers members) :
    Tabular (.record sections) := by
  subst hkeys
  exact ⟨hbare.1, fun s hs => ⟨hbare.2 s.1 (List.mem_map_of_mem hs), htables s hs⟩⟩

/-- A member as an entry of a table. -/
def memberEntry (m : String × Data) : String × Node := (m.1, .value m.2)

/-- A table as an entry of the document. -/
def tableEntry (s : String × Data) : String × Node :=
  match s.2 with
  | .record members => (s.1, .table .header (members.map memberEntry))
  | x => (s.1, .value x)

theorem membersOf_memberEntry (members : List (String × Data)) :
    membersOf (members.map memberEntry) = members := by
  induction members with
  | nil => rfl
  | cons m members ih =>
    rw [List.map_cons, memberEntry, membersOf, ih]
    rfl

theorem membersOf_tableEntry (sections : List (String × Data)) :
    membersOf (sections.map tableEntry) = sections := by
  induction sections with
  | nil => rfl
  | cons s sections ih =>
    obtain ⟨name, x⟩ := s
    cases x with
    | record members =>
      show (name, Data.record (membersOf (members.map memberEntry))) :: membersOf _ = _
      rw [membersOf_memberEntry, ih]
    | _ => exact congrArg (List.cons _) ih

theorem keys_tableEntry (s : String × Data) : (tableEntry s).1 = s.1 := by
  rw [tableEntry]
  split <;> rfl

theorem toList_table (name : String) (members : List (String × Data)) :
    (table name members).toList =
      '[' :: (name.toList ++ ']' :: '\n' :: members.flatMap memberLine) := by
  have hlines : (String.join (members.map fun m =>
      m.1 ++ " = " ++ value m.2 ++ "\n")).toList = members.flatMap memberLine := by
    rw [String.toList_join, List.flatMap_map]
    congr 1
    funext m
    simp [memberLine]
  show ("[" ++ name ++ "]\n" ++ String.join _).toList = _
  rw [String.toList_append, hlines]
  simp

namespace Reads

variable {done entries root : Entries} {name : String} {rest : List Char}

/-- The lines under a header, each with a new key. -/
theorem members {members : List (String × Data)} (hname : name ∉ done.map Prod.fst)
    (hkeys : (entries.map Prod.fst ++ members.map Prod.fst).Nodup)
    (hmembers : ∀ m ∈ members, IsBareKey m.1 ∧ Fits m.2)
    (h : Reads (underHeader done name (entries ++ members.map memberEntry)) rest root) :
    Reads (underHeader done name entries) (members.flatMap memberLine ++ rest) root := by
  induction members generalizing entries with
  | nil => simpa using h
  | cons m members ih =>
    obtain ⟨hkey, hx⟩ := hmembers m List.mem_cons_self
    have hnew : m.1 ∉ entries.map Prod.fst := new_of_nodup hkeys
    rw [List.flatMap_cons, List.append_assoc]
    refine member hkey hx hname hnew (ih ?_ (fun n hn => hmembers n (List.mem_cons_of_mem m hn)) ?_)
    · rwa [List.map_append, List.append_assoc]
    · rwa [List.append_assoc]

theorem table {header : List String} {members : List (String × Data)} (hname : IsBareKey name)
    (hnew : name ∉ done.map Prod.fst) (hmembers : TableMembers members)
    (h : ∀ header, Reads ⟨header, done ++ [tableEntry (name, .record members)]⟩ rest root) :
    Reads ⟨header, done⟩ ((Toml.table name members).toList ++ rest) root := by
  have htext : (Toml.table name members).toList ++ rest =
      '[' :: (name.toList ++ ']' :: '\n' :: (members.flatMap memberLine ++ rest)) := by
    rw [toList_table]
    simp
  rw [htext]
  exact Reads.header hname hnew (Reads.members hnew hmembers.1 hmembers.2 (h [name]))

end Reads

/-- The text of a document with a table in front. -/
theorem toList_pretty_cons (name : String) (members : List (String × Data))
    (sections : List (String × Data)) :
    ∃ texts, (pretty (.record ((name, .record members) :: sections))).toList =
        (table name members).toList ++ texts.flatMap (fun text => '\n' :: text.toList) ∧
      pretty (.record sections) = Text.join "\n" texts := by
  refine ⟨_, ?_, rfl⟩
  show (Text.join "\n" (table name members :: _)).toList = _
  rw [Text.toList_join_cons]
  simp

theorem Reads.tables {done : Entries} {header : List String} {sections : List (String × Data)}
    (hkeys : (done.map Prod.fst ++ sections.map Prod.fst).Nodup)
    (hsections : ∀ s ∈ sections,
      IsBareKey s.1 ∧ ∃ members, s.2 = .record members ∧ TableMembers members) :
    Reads ⟨header, done⟩ (pretty (.record sections)).toList (done ++ sections.map tableEntry) := by
  induction sections generalizing done header with
  | nil =>
    rw [List.map_nil, List.append_nil]
    exact Reads.nil ⟨header, done⟩
  | cons s sections ih =>
    obtain ⟨name, x⟩ := s
    obtain ⟨hname, members, rfl, hmembers⟩ := hsections (name, x) List.mem_cons_self
    have hnew : name ∉ done.map Prod.fst := new_of_nodup hkeys
    have hrest : ∀ header, Reads ⟨header, done ++ [tableEntry (name, .record members)]⟩
        (pretty (.record sections)).toList
        (done ++ ((name, .record members) :: sections).map tableEntry) := by
      intro header
      have hkeys' : ((done ++ [tableEntry (name, .record members)]).map Prod.fst ++
          sections.map Prod.fst).Nodup := by
        rwa [List.map_append, List.map_singleton, keys_tableEntry, List.append_assoc]
      have hread := @ih _ header hkeys' fun s hs => hsections s (List.mem_cons_of_mem _ hs)
      rwa [List.append_assoc] at hread
    obtain ⟨texts, htext, htexts⟩ := toList_pretty_cons name members sections
    rw [htext]
    refine Reads.table hname hnew hmembers fun header => ?_
    have hread := hrest header
    rw [htexts] at hread
    -- an empty line stands before each of the other tables
    cases texts with
    | nil => exact hread
    | cons text texts =>
      rw [List.flatMap_cons, List.cons_append]
      rw [Text.toList_join_cons] at hread
      exact Reads.blank hread

/-- A document of tables begins with no byte order mark. -/
theorem pretty_head {d : Data} (hd : Tabular d) : ∀ c ∈ (pretty d).toList.head?, c = '[' := by
  match d, hd with
  | .record [], _ => simp [pretty, Text.join]
  | .record ((name, x) :: sections), ⟨_, hsections⟩ =>
    obtain ⟨-, members, hx, -⟩ := hsections (name, x) List.mem_cons_self
    obtain rfl : x = .record members := hx
    obtain ⟨texts, htext, -⟩ := toList_pretty_cons name members sections
    rw [htext, toList_table]
    simp

theorem read?_eq {s : String} (hs : ∀ c ∈ s.toList.head?, c ≠ '\ufeff') :
    read? s = (lines? (s.toList.length + 1) ⟨[], []⟩ s.toList).map fun doc =>
      .record (membersOf doc.root) := by
  unfold read?
  split
  · next heq => exact absurd rfl (hs _ (by rw [heq]; rfl))
  · exact (Option.map_eq_bind ..).symm

/-- A document of tables is read back from its text. -/
theorem read?_pretty {d : Data} (hd : Tabular d) : read? (pretty d) = some d := by
  have hmark : ∀ c ∈ (pretty d).toList.head?, c ≠ '\ufeff' := by
    intro c hc
    rw [pretty_head hd c hc]
    decide
  match d, hd with
  | .record sections, ⟨hkeys, hsections⟩ =>
    have hread : Reads ⟨[], []⟩ (pretty (.record sections)).toList
        ([] ++ sections.map tableEntry) := Reads.tables hkeys hsections
    obtain ⟨doc, hdoc, hroot⟩ := Option.map_eq_some_iff.1 (hread _ (Nat.lt_succ_self _))
    rw [read?_eq hmark, hdoc, Option.map_some, hroot, List.nil_append, membersOf_tableEntry]

end SensorBench.Toml
