import PageHarvest.Document.Tree
import PageHarvest.Proofs.Text.Spelling

/-! # Attribute names in documents

The names of attributes are lower-cased when a tag is read, in ASCII only, and no later part of
building the tree makes up a name. So no element of a document has an attribute with a capital
ASCII letter in its name.
-/

namespace PageHarvest.Document

/-! ## Tags -/

/-- No capital ASCII letter stands in the text. -/
def Uncapitalized (s : List Char) : Prop := ∀ c ∈ s, c.isUpper = false

instance (s : List Char) : Decidable (Uncapitalized s) :=
  decidable_of_iff (s.all fun c => !c.isUpper) (by simp [Uncapitalized])

/-- All names are without capital ASCII letters. -/
def SmallNames (attributes : Attributes) : Prop :=
  ∀ pair ∈ attributes, Uncapitalized pair.1.toList

/-- All names in a start tag are without capital ASCII letters. -/
def Token.Small : Token → Prop
  | .opening _ attributes _ => SmallNames attributes
  | .closing _ | .text _ | .comment => True

private theorem uncapitalized_lowerAscii (s : List Char) : Uncapitalized (lowerAscii s).toList := by
  intro c member
  rw [lowerAscii, String.toList_ofList] at member
  obtain ⟨original, -, rfl⟩ := List.mem_map.mp member
  exact Text.isUpper_toLower original

private theorem smallNames_cons {name value : String} {attributes : Attributes}
    (small : Uncapitalized name.toList) (others : SmallNames attributes) :
    SmallNames ((name, value) :: attributes) := by
  intro pair member
  rcases List.mem_cons.mp member with rfl | later
  · exact small
  · exact others pair later

/-- The names that a tag gives to its attributes are small. -/
private theorem smallNames_of_lexAttributes {fuel : Nat} {s rest : List Char}
    {attributes : Attributes}
    {closed : Bool} (read : lexAttributes fuel s = some (attributes, closed, rest)) :
    SmallNames attributes := by
  induction fuel generalizing s attributes closed rest with
  | zero => cases read
  | succ fuel ih =>
    rw [lexAttributes] at read
    split at read
    · cases read
    · cases read
      exact nofun
    · cases read
      exact nofun
    · exact ih read
    · -- one attribute in front of the others, whose namesakes are left out
      dsimp only at read
      split at read
      · cases read
      · next later _ _ lexed =>
        cases read
        refine smallNames_cons (uncapitalized_lowerAscii _) fun pair member => ?_
        exact ih lexed pair (List.mem_filter.mp member).1

private theorem smallNames_of_lexTag {s rest : List Char} {name : String} {attributes : Attributes}
    {closed : Bool} (read : lexTag s = some (name, attributes, closed, rest)) :
    SmallNames attributes := by
  obtain ⟨⟨found, slash, after⟩, lexed, same⟩ := Option.map_eq_some_iff.mp read
  cases same
  exact smallNames_of_lexAttributes lexed

/-- Every tag of a text has small names. -/
private theorem small_of_mem_lexWith {fuel : Nat} {s : List Char} :
    ∀ token ∈ lexWith fuel s, token.Small := by
  fun_induction lexWith fuel s
  -- nothing is left, or a tag never ends
  case case1 | case2 | case10 => exact nofun
  case case12 unread _ _ _ _ _ _ =>
    rw [unread]
    exact nofun
  -- nothing in front of what comes later
  case case4 later | case8 later => exact later
  -- a token without attributes in front
  case case7 => exact List.forall_mem_singleton.mpr trivial
  case case3 | case5 | case6 | case9 | case11 =>
    rename_i later
    exact List.forall_mem_cons.mpr ⟨trivial, later⟩
  case case18 | case19 =>
    rename_i read later
    cases read
    exact List.forall_mem_cons.mpr ⟨trivial, later⟩
  -- a start tag, alone or with the text it holds
  case case13 =>
    rename_i read later
    rw [read]
    exact List.forall_mem_cons.mpr ⟨smallNames_of_lexTag read, later⟩
  case case14 read opened content _ _ _ _ _ _ later =>
    rw [read]
    dsimp only
    rw [if_neg opened, content]
    exact List.forall_mem_cons.mpr ⟨smallNames_of_lexTag read, later⟩
  case case15 read opened content _ _ _ _ _ _ =>
    rw [read]
    dsimp only
    rw [if_neg opened, content]
    exact List.forall_mem_cons.mpr
      ⟨smallNames_of_lexTag read, List.forall_mem_singleton.mpr trivial⟩
  case case16 | case17 =>
    rename_i read opened content _ _ ended _ _ _ _ _ _ later
    rw [read]
    dsimp only
    rw [if_neg opened, content]
    dsimp only
    rw [ended]
    exact List.forall_mem_cons.mpr
      ⟨smallNames_of_lexTag read, List.forall_mem_cons.mpr ⟨trivial, later⟩⟩

/-! ## Trees -/

mutual

/-- At and below a node all names are without capital ASCII letters. -/
def Node.Small : Node → Prop
  | .element _ attributes children => SmallNames attributes ∧ SmallIn children
  | .text _ _ | .comment => True

/-- At and below the nodes of a list all names are without capital ASCII letters. -/
def SmallIn : List Node → Prop
  | [] => True
  | node :: rest => node.Small ∧ SmallIn rest

end

private theorem smallIn_iff {nodes : List Node} : SmallIn nodes ↔ ∀ node ∈ nodes, node.Small := by
  induction nodes with
  | nil => exact iff_of_true trivial nofun
  | cons node rest ih => rw [SmallIn, ih, List.forall_mem_cons]

private theorem smallIn_reverse {nodes : List Node} (small : SmallIn nodes) :
    SmallIn nodes.reverse :=
  smallIn_iff.mpr fun node member => smallIn_iff.mp small node (List.mem_reverse.mp member)

/-- What an open element has so far is without capital ASCII letters in its names. -/
structure OpenElement.Small (e : OpenElement) : Prop where
  own : SmallNames e.attributes
  inside : SmallIn e.children

private theorem OpenElement.Small.close {e : OpenElement} (small : e.Small) : e.close.Small :=
  ⟨small.own, smallIn_reverse small.inside⟩

/-- Words are listed anew in the value, and the name stays. -/
theorem attributeOf_fst (element : String) (pair : String × String) :
    (attributeOf element pair).1 = pair.1 := by
  rw [attributeOf]
  split <;> rfl

private theorem SmallNames.map_attributeOf {attributes : Attributes} (small : SmallNames attributes)
    (element : String) : SmallNames (attributes.map (attributeOf element)) := by
  intro pair member
  obtain ⟨original, among, rfl⟩ := List.mem_map.mp member
  rw [attributeOf_fst]
  exact small original among

/-- What the builder has read so far is without capital ASCII letters in its names. -/
structure Builder.Small (b : Builder) : Prop where
  stack : ∀ e ∈ b.stack, e.Small
  top : SmallIn b.top

namespace Builder.Small

variable {b : Builder}

/-- The other parts of the builder hold no names. -/
theorem congr (small : b.Small) {other : Builder} (stack : other.stack = b.stack)
    (top : other.top = b.top) : other.Small :=
  ⟨stack ▸ small.stack, top ▸ small.top⟩

private theorem add (small : b.Small) {node : Node} (added : node.Small) : (b.add node).Small := by
  rw [Builder.add]
  split
  · next empty => exact ⟨fun e member => small.stack e member, added, small.top⟩
  · next e rest pushed =>
    obtain ⟨inner, outer⟩ := List.forall_mem_cons.mp (pushed ▸ small.stack)
    have grown : OpenElement.Small { e with children := node :: e.children } :=
      ⟨inner.own, added, inner.inside⟩
    exact ⟨List.forall_mem_cons.mpr ⟨grown, outer⟩, small.top⟩

private theorem flush (small : b.Small) : b.flush.Small := by
  rw [Builder.flush]
  split
  · exact small
  · exact (small.congr rfl rfl : Builder.Small { b with pending := [] }).add trivial

private theorem push (small : b.Small) (name : String) {attributes : Attributes}
    (names : SmallNames attributes) : (b.push name attributes).Small where
  stack := List.forall_mem_cons.mpr ⟨⟨names.map_attributeOf name, trivial⟩, small.flush.stack⟩
  top := small.flush.top

private theorem pop (small : b.Small) : b.pop.Small := by
  have flushed := small.flush
  rw [Builder.pop]
  split
  · exact flushed
  · next e rest pushed =>
    obtain ⟨inner, outer⟩ := List.forall_mem_cons.mp (pushed ▸ flushed.stack)
    have closed : Builder.Small { b.flush with stack := rest } := ⟨outer, flushed.top⟩
    exact closed.add inner.close

private theorem popMany (small : b.Small) (n : Nat) : (b.popMany n).Small := by
  induction n generalizing b with
  | zero => exact small
  | succ n ih => exact ih small.pop

private theorem closeFor (small : b.Small) (name : String) : (b.closeFor name).Small :=
  small.popMany _

/-- Elements that are added have no attributes. -/
theorem imply (small : b.Small) (name : String) : (b.imply name).Small := by
  have bare : SmallNames [] := nofun
  have rooted : (if b.stack.isEmpty then b.push "html" [] else b).Small := by
    split
    · exact small.push "html" bare
    · exact small
  rw [Builder.imply]
  split
  · exact small
  · dsimp only
    generalize (if b.stack.isEmpty then b.push "html" [] else b) = outer at rooted ⊢
    repeat' split
    all_goals first | exact rooted | exact rooted.push _ bare

private theorem opening (small : b.Small) (name : String) {attributes : Attributes}
    (names : SmallNames attributes) (closed : Bool) : (b.opening name attributes closed).Small := by
  have ready := (small.closeFor name).imply name
  have pushed := ready.push name names
  rw [Builder.opening]
  dsimp only
  split
  · exact ready.congr rfl rfl
  · split
    · exact pushed.pop
    · exact pushed

private theorem closing (small : b.Small) (name : String) : (b.closing name).Small := by
  rw [Builder.closing]
  split
  · exact small.congr rfl rfl
  · split
    · exact small
    · next n closes => exact (small.popMany n).congr rfl rfl

private theorem text (small : b.Small) (content : List Char) : (b.text content).Small := by
  have ready : (if b.current? == some "head" then b.closeFor "p" else b).Small := by
    split
    · exact small.closeFor "p"
    · exact small
  unfold Builder.text
  extract_lets outside
  split
  · split
    · exact small
    · exact (ready.imply "p").congr rfl rfl
  · exact small.congr rfl rfl

/-- One token leaves all names without capital ASCII letters. -/
theorem step (small : b.Small) {token : Token} (read : token.Small) : (b.step token).Small := by
  unfold Builder.step
  split
  · exact small
  · cases token with
    | opening name attributes closed => exact small.opening name read closed
    | closing name => exact small.closing name
    | text content => exact small.text content
    | comment => exact small.flush.add trivial

private theorem foldl_step (small : b.Small) {tokens : List Token}
    (read : ∀ token ∈ tokens, token.Small) :
    (tokens.foldl Builder.step b).Small := by
  induction tokens generalizing b with
  | nil => exact small
  | cons token rest ih =>
    obtain ⟨first, later⟩ := List.forall_mem_cons.mp read
    exact ih (small.step first) later

private theorem finish (small : b.Small) : SmallIn b.finish :=
  smallIn_reverse (small.popMany b.stack.length).flush.top

end Builder.Small

/-! ## Documents -/

namespace Place

mutual

private theorem smallNames_belowNode {parent element : Place} {before after : List Node} :
    ∀ {node : Node}, node.Small → element ∈ belowNode parent before after node →
      SmallNames element.attributes
  | .element _ _ _, small, inside => by
    rw [belowNode] at inside
    rcases List.mem_cons.mp inside with rfl | below
    · exact small.1
    · exact smallNames_belowNodes small.2 below
  | .text _ _, _, inside => by cases inside
  | .comment, _, inside => by cases inside

private theorem smallNames_belowNodes {parent element : Place} {before : List Node} :
    ∀ {nodes : List Node}, SmallIn nodes → element ∈ belowNodes parent before nodes →
      SmallNames element.attributes
  | [], _, inside => by cases inside
  | _ :: _, small, inside => by
    rw [belowNodes, List.mem_append] at inside
    rcases inside with here | later
    · exact smallNames_belowNode small.1 here
    · exact smallNames_belowNodes small.2 later

end

/-- No element of a document has an attribute with a capital ASCII letter in its name. -/
theorem smallNames_of_mem_descendants {html : String} {element : Place}
    (inside : element ∈ (parse html).descendants) : SmallNames element.attributes := by
  have empty : Builder.Small {} := ⟨nofun, trivial⟩
  have read (source : String) : Builder.Small ((lex source).foldl Builder.step {}) :=
    empty.foldl_step small_of_mem_lexWith
  exact smallNames_belowNodes (read _).finish inside

/-- An attribute whose name has a capital ASCII letter is on no element of a document. -/
theorem attribute?_eq_none {html : String} {element : Place}
    (inside : element ∈ (parse html).descendants) {name : String}
    (capital : ¬ Uncapitalized name.toList) : element.attribute? name = none := by
  rw [attribute?, List.lookup_eq_none_iff]
  intro pair member
  rw [bne_iff_ne]
  rintro rfl
  exact capital (smallNames_of_mem_descendants inside pair member)

end Place

end PageHarvest.Document
