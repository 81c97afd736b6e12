import EventTables.Proofs.Schema.Statement

/-!
# Reading Statements Back

The text of a safe statement says which statement it is.

A statement is written by putting texts between fixed ones, so a text with a
blank or a bracket in it could be taken for a part of the template. The texts of
a safe statement have neither. Its words are then exactly the runs of allowed
characters, and with the brackets and commas between them they give back the
statement. The reader below works in that order: characters to tokens, tokens to
lists of words, lists of words to columns. A database that is given texts only
can be modelled by what it reads.

## Main definitions

* `Token`, `tokens`: Words, brackets and commas, and the tokens of a text.
* `phrases?`: The words between commas, up to the closing bracket.
* `ofText?`: The statement of a text.

## Theorems

* `tokens_spaced`, `tokens_word`: The tokens of words.
* `phrases?_listing`: A list that was written between brackets is read back.
* `ofText?_text`: A safe statement is read back from its text.
-/

namespace EventTables

namespace Statement

/-! ### The reader -/

/-- A part of a statement's text. -/
inductive Token where
  | word (w : String)
  | opening
  | closing
  | comma
  | other (c : Char)
deriving DecidableEq, Inhabited, Repr

/-- What a character between two words stands for. -/
def separator (c : Char) : List Token :=
  if c = ' ' then []
  else if c = '(' then [.opening]
  else if c = ')' then [.closing]
  else if c = ',' then [.comma]
  else [.other c]

/-- The word that has been read, if there is one. -/
def endWord (read : List Char) : List Token :=
  if read.isEmpty then [] else [.word (String.ofList read)]

/-- The tokens of a text, of whose first word some characters have been read. -/
def tokensFrom (read : List Char) : List Char → List Token
  | [] => endWord read
  | c :: cs =>
    if isAllowed c then tokensFrom (read ++ [c]) cs
    else endWord read ++ separator c ++ tokensFrom [] cs

/-- The tokens of a text. -/
def tokens (text : List Char) : List Token :=
  tokensFrom [] text

/-- The words between commas, up to a closing bracket at the end. -/
def phrases? : List Token → Option (List (List String))
  | [.closing] => some [[]]
  | .word w :: rest =>
    match phrases? rest with
    | some (p :: ps) => some ((w :: p) :: ps)
    | _ => none
  | .comma :: rest => (phrases? rest).map ([] :: ·)
  | _ => none

/-- The members of a list, each made of the words of its phrase. Nothing before
    the closing bracket is a list without members. -/
def listed? {α : Type} (item? : List String → Option α) (body : List Token) : Option (List α) :=
  match phrases? body with
  | some [[]] => some []
  | some ps => ps.mapM item?
  | none => none

/-- The column of a name and a type. -/
def column? : List String → Option Column
  | [name, type] => some ⟨name, type⟩
  | _ => none

/-- The name of one word. -/
def name? : List String → Option String
  | [name] => some name
  | _ => none

/-- The statement of the tokens. -/
def ofTokens? : List Token → Option Statement
  | .word "create" :: .word "table" :: .word "if" :: .word "not" :: .word "exists" ::
      .word table :: .opening :: body => (listed? column? body).map (.createTable table)
  | [.word "alter", .word "table", .word table, .word "add", .word "column", .word "if",
      .word "not", .word "exists", .word name, .word type] => some (.addColumn table ⟨name, type⟩)
  | .word "create" :: .word "unique" :: .word "index" :: .word "if" :: .word "not" ::
      .word "exists" :: .word index :: .word "on" :: .word table :: .opening :: body =>
    (listed? name? body).map (.createIndex index table)
  | _ => none

/-- The statement of a text. -/
def ofText? (text : String) : Option Statement :=
  ofTokens? (tokens text.toList)

/-! ### Words -/

-- Characters of a word that are still to be read join those that have been.
theorem tokensFrom_append (read word rest : List Char) (hword : ∀ c ∈ word, isAllowed c = true) :
    tokensFrom read (word ++ rest) = tokensFrom (read ++ word) rest := by
  induction word generalizing read with
  | nil => rw [List.nil_append, List.append_nil]
  | cons c cs ih =>
      rcases List.forall_mem_cons.mp hword with ⟨hc, hcs⟩
      rw [List.cons_append, tokensFrom, if_pos hc, ih _ hcs, List.append_assoc,
        List.singleton_append]

theorem endWord_toList (w : String) (hw : IsIdentifier w) : endWord w.toList = [.word w] := by
  have hne : ¬ w.toList.isEmpty = true := by
    rw [List.isEmpty_iff, String.toList_eq_nil_iff]
    exact hw.1
  rw [endWord, if_neg hne, String.ofList_toList]

-- A word ends before any character that no word has.
theorem tokens_word (w : String) (hw : IsIdentifier w) (c : Char) (hc : isAllowed c = false)
    (rest : List Char) :
    tokens (w.toList ++ c :: rest) = .word w :: (separator c ++ tokens rest) := by
  have hnot : ¬ isAllowed c = true := by
    rw [hc]
    decide
  rw [tokens, tokensFrom_append _ _ _ hw.2, List.nil_append, tokensFrom, if_neg hnot,
    endWord_toList w hw]
  rfl

-- A word ends with the text.
theorem tokens_last (w : String) (hw : IsIdentifier w) : tokens w.toList = [.word w] := by
  have hread := tokensFrom_append [] w.toList [] hw.2
  rw [List.append_nil, List.nil_append] at hread
  rw [tokens, hread, tokensFrom, endWord_toList w hw]

theorem tokens_blank (rest : List Char) : tokens (' ' :: rest) = tokens rest :=
  rfl

/-- The characters of words with a blank after each. -/
def spaced (words : List String) : List Char :=
  words.flatMap fun w => w.toList ++ [' ']

-- Blanks end words and leave no trace of their own.
theorem tokens_spaced (words : List String) (hwords : ∀ w ∈ words, IsIdentifier w)
    (rest : List Char) : tokens (spaced words ++ rest) = words.map .word ++ tokens rest := by
  induction words with
  | nil => rfl
  | cons w ws ih =>
      rcases List.forall_mem_cons.mp hwords with ⟨hw, hws⟩
      rw [spaced, List.flatMap_cons, List.append_assoc, List.append_assoc, List.singleton_append,
        tokens_word w hw ' ' rfl, List.map_cons, List.cons_append, ← ih hws]
      rfl

-- Words with blanks only between them end with the character after the last
-- one.
theorem tokens_phrase (first : String) (words : List String)
    (hwords : ∀ w ∈ first :: words, IsIdentifier w) (c : Char) (hc : isAllowed c = false)
    (rest : List Char) :
    tokens ((" ".intercalate (first :: words)).toList ++ c :: rest) =
      (first :: words).map .word ++ (separator c ++ tokens rest) := by
  induction words generalizing first with
  | nil =>
      rw [String.intercalate_singleton]
      exact tokens_word first (hwords first List.mem_cons_self) c hc rest
  | cons second words ih =>
      rcases List.forall_mem_cons.mp hwords with ⟨hfirst, hrest⟩
      rw [String.intercalate_cons_cons, String.toList_append, String.toList_append,
        List.append_assoc, List.append_assoc, show " ".toList = [' '] from rfl,
        List.singleton_append, tokens_word first hfirst ' ' rfl, ih second hrest]
      rfl

/-! ### Lists -/

theorem phrases?_words (words : List String) (ts : List Token) (p : List String)
    (ps : List (List String)) (h : phrases? ts = some (p :: ps)) :
    phrases? (words.map .word ++ ts) = some ((words ++ p) :: ps) := by
  induction words with
  | nil => exact h
  | cons w ws ih => rw [List.map_cons, List.cons_append, phrases?, ih, List.cons_append]

/-- Phrases with commas between them, up to a closing bracket, are read back. -/
theorem phrases?_listing (first : List String) (others : List (List String))
    (hphrases : ∀ p ∈ first :: others, p ≠ [] ∧ ∀ w ∈ p, IsIdentifier w) :
    phrases? (tokens ((", ".intercalate ((first :: others).map (" ".intercalate ·)) ++
      ")").toList)) = some (first :: others) := by
  induction others generalizing first with
  | nil =>
      rcases hphrases first List.mem_cons_self with ⟨hne, hwords⟩
      rcases List.exists_cons_of_ne_nil hne with ⟨w, ws, rfl⟩
      rw [List.map_singleton, String.intercalate_singleton, String.toList_append,
        show ")".toList = [')'] from rfl, tokens_phrase w ws hwords ')' rfl,
        phrases?_words _ _ [] [] rfl, List.append_nil]
  | cons second others ih =>
      rcases List.forall_mem_cons.mp hphrases with ⟨⟨hne, hwords⟩, hrest⟩
      rcases List.exists_cons_of_ne_nil hne with ⟨w, ws, rfl⟩
      have hothers := ih second hrest
      rw [List.map_cons] at hothers
      rw [List.map_cons, List.map_cons, String.intercalate_cons_cons, String.append_assoc,
        String.append_assoc, String.toList_append, String.toList_append,
        show ", ".toList = [',', ' '] from rfl, List.cons_append, List.singleton_append,
        tokens_phrase w ws hwords ',' rfl, tokens_blank]
      -- The comma ends the first phrase, and the blank after it is skipped.
      refine (phrases?_words _ _ [] (second :: others) ?_).trans (by rw [List.append_nil])
      change (phrases? (tokens _)).map ([] :: ·) = _
      rw [hothers]
      rfl

theorem mapM_words {α : Type} (item? : List String → Option α) (words : α → List String)
    (hitem : ∀ a, item? (words a) = some a) (items : List α) :
    (items.map words).mapM item? = some items := by
  induction items with
  | nil => rfl
  | cons a rest ih =>
      rw [List.map_cons, List.mapM_cons, hitem, ih]
      rfl

-- Phrases whose first one has a word are the members of a list.
theorem listed?_eq {α : Type} (item? : List String → Option α) (body : List Token) (w : String)
    (ws : List String) (ps : List (List String)) (h : phrases? body = some ((w :: ws) :: ps)) :
    listed? item? body = ((w :: ws) :: ps).mapM item? := by
  rw [listed?, h]

/-- A list is read back if each member is read back from its words. -/
theorem listed?_listing {α : Type} (item? : List String → Option α) (words : α → List String)
    (hitem : ∀ a, item? (words a) = some a) (items : List α)
    (hitems : ∀ a ∈ items, words a ≠ [] ∧ ∀ w ∈ words a, IsIdentifier w) :
    listed? item? (tokens ((", ".intercalate ((items.map words).map (" ".intercalate ·)) ++
      ")").toList)) = some items := by
  cases items with
  | nil =>
      -- There is a closing bracket and nothing else.
      rw [List.map_nil, List.map_nil, String.intercalate_nil]
      rfl
  | cons a rest =>
      have hphrases := phrases?_listing (words a) (rest.map words) fun p hp => by
        rw [← List.map_cons] at hp
        rcases List.mem_map.mp hp with ⟨b, hb, rfl⟩
        exact hitems b hb
      rw [← List.map_cons] at hphrases
      have hmembers := mapM_words item? words hitem (a :: rest)
      rcases List.exists_cons_of_ne_nil (hitems a List.mem_cons_self).1 with ⟨w, ws, hwords⟩
      rw [List.map_cons, hwords] at hphrases hmembers ⊢
      rw [listed?_eq item? _ w ws _ hphrases, hmembers]

/-! ### Statements -/

-- The columns of a create statement are read back from their declarations.
theorem listed?_columns (columns : List Column) (hcolumns : ∀ c ∈ columns, c.IsDeclarable) :
    listed? column? (tokens ((", ".intercalate (columns.map Column.declaration) ++ ")").toList)) =
      some columns := by
  have hlist := listed?_listing column? (fun c : Column => [c.name, c.type]) (fun _ => rfl) columns
    fun c hc => ⟨List.cons_ne_nil _ _, by
      rw [List.forall_mem_cons, List.forall_mem_singleton]
      exact hcolumns c hc⟩
  rw [List.map_map] at hlist
  exact hlist

-- The columns of an index statement are read back.
theorem listed?_names (names : List String) (hnames : ∀ name ∈ names, IsIdentifier name) :
    listed? name? (tokens ((", ".intercalate names ++ ")").toList)) = some names := by
  have hlist := listed?_listing name? (fun name : String => [name]) (fun _ => rfl) names
    fun name hname => ⟨List.cons_ne_nil _ _, by
      rw [List.forall_mem_singleton]
      exact hnames name hname⟩
  simp only [List.map_map, Function.comp_def, String.intercalate_singleton, List.map_id'] at hlist
  exact hlist

/-- A safe statement is read back from its text, so no two of them share one. -/
theorem ofText?_text (s : Statement) (hs : s.IsSafe) : ofText? s.text = some s := by
  -- The fixed parts of a template are words with blanks between them, so the text is
  -- taken apart into words one after the other, up to the list in brackets.
  cases s with
  | createTable table columns =>
      rcases hs with ⟨htable, hcolumns⟩
      have hhead : "create table if not exists ".toList =
          spaced ["create", "table", "if", "not", "exists"] := by decide +kernel
      rw [ofText?, text_createTable, String.append_assoc, String.append_assoc, String.append_assoc,
        String.toList_append, String.toList_append, String.toList_append, hhead,
        tokens_spaced _ (by decide), show "(".toList = ['('] from rfl, List.singleton_append,
        tokens_word table htable '(' rfl]
      change (listed? column? (tokens _)).map _ = _
      rw [listed?_columns columns hcolumns]
      rfl
  | addColumn table column =>
      rcases hs with ⟨htable, hname, htype⟩
      have hhead : "alter table ".toList = spaced ["alter", "table"] := by decide +kernel
      have hadd : " add column if not exists ".toList =
          ' ' :: spaced ["add", "column", "if", "not", "exists"] := by decide +kernel
      rw [ofText?, text_addColumn, Column.declaration]
      simp only [String.toList_append, List.append_assoc]
      rw [hhead, hadd, tokens_spaced _ (by decide), List.cons_append,
        tokens_word table htable ' ' rfl, tokens_spaced _ (by decide),
        show " ".toList = [' '] from rfl, List.singleton_append,
        tokens_word column.name hname ' ' rfl, tokens_last column.type htype]
      rfl
  | createIndex index table columns =>
      rcases hs with ⟨hindex, htable, hcolumns⟩
      have hhead : "create unique index if not exists ".toList =
          spaced ["create", "unique", "index", "if", "not", "exists"] := by decide +kernel
      have hon : " on ".toList = ' ' :: spaced ["on"] := by decide +kernel
      have hbracket : " (".toList = [' ', '('] := rfl
      rw [ofText?, text_createIndex]
      simp only [String.append_assoc]
      rw [String.toList_append, String.toList_append, String.toList_append, String.toList_append,
        String.toList_append, hhead, hon, hbracket, tokens_spaced _ (by decide), List.cons_append,
        tokens_word index hindex ' ' rfl, tokens_spaced _ (by decide), List.cons_append,
        List.singleton_append, tokens_word table htable ' ' rfl]
      change (listed? name? (tokens _)).map _ = _
      rw [listed?_names columns hcolumns]
      rfl

end Statement

end EventTables
