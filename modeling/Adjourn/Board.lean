import Adjourn.Session

/-! The board of the game screen: which squares it marks, which moves its clicks submit, and
what `play_move` says to them. -/

namespace Adjourn.Board
open Cbor GameState Delegate Session

inductive Role where
  | pawn
  | knight
  | bishop
  | rook
  | queen
  | king
  deriving DecidableEq

/-- What shakmaty says about the board of a position, and its reading of a square's name. -/
structure Chessboard (rules : Rules) where
  Square : Type
  fromAscii : Bytes → Option Square
  pieceAt : rules.Position → Square → Option (Color × Role)

inductive Shade where
  | light
  | dark
  deriving DecidableEq

inductive Marker where
  | none
  | selected
  | legalTarget
  deriving DecidableEq

abbrev Coord := Char × Byte

structure Square where
  file : Char
  rank : Byte
  shade : Shade
  piece : Option (Color × Role)
  marker : Marker

def Square.coord (sq : Square) : Coord := (sq.file, sq.rank)

def files : List Char := ['a', 'b', 'c', 'd', 'e', 'f', 'g', 'h']

def ranks : Color → List Byte
  | .white => [8, 7, 6, 5, 4, 3, 2, 1]
  | .black => [1, 2, 3, 4, 5, 6, 7, 8]

def row : Color → List Char
  | .white => files
  | .black => files.reverse

def uciOf (here : Coord) : String := here.1.toString ++ toString here.2.val

def toDigit (c : Char) : Option Byte := if c.isDigit then some (Fin.ofNat 256 (c.toNat - 48)) else none

def target (uci : String) : Option Coord :=
  match uci.toList.drop 2 with
  | file :: rank :: _ => (toDigit rank).map fun rank => (file, rank)
  | _ => none

/-- What the screen submits: for a click on a target, or for a pick of the promotion piece. -/
def uci (source here : Coord) : Option Char → String
  | none => uciOf source ++ uciOf here
  | some piece => uciOf source ++ uciOf here ++ piece.toString

def pieces : List Char := ['q', 'r', 'b', 'n']

section Status
variable {rules : Rules} (board : Chessboard rules) (status : Status) (orientation : Color)

def positionOf (rules : Rules) (status : Status) : Option rules.Position := rules.parseFen status.fen

/-- The hand copy of `GameState.legalMoves`. -/
def legalMovesFor (rules : Rules) (status : Status) : List String :=
  match positionOf rules status with
  | none => []
  | some pos => (rules.legalMoves pos).map fun mv => rules.uciString (rules.fromMove mv)

def targets (rules : Rules) (status : Status) (selected : Option Coord) : List Coord :=
  match selected, status.decision.isNone with
  | some source, true =>
    ((legalMovesFor rules status).filter fun mv => (uciOf source).toList.isPrefixOf mv.toList).filterMap target
  | _, _ => []

def pieceOn (pos : rules.Position) (here : Coord) : Option (Color × Role) :=
  (board.fromAscii (utf8 (uciOf here))).bind (board.pieceAt pos)

def square (selected : Option Coord) (here : Coord) : Square where
  file := here.1
  rank := here.2
  -- a1 is dark
  shade := if (here.1.toNat - 97 + here.2.val) % 2 = 1 then .dark else .light
  piece := (positionOf rules status).bind fun pos => pieceOn board pos here
  marker :=
    if selected = some here then .selected
    else if (targets rules status selected).contains here then .legalTarget
    else .none

/-- The squares in reading order: White reads a8 first, Black reads h1 first. -/
def squares (selected : Option Coord) : List Square :=
  (ranks orientation).flatMap fun rank =>
    (row orientation).map fun file => square board status selected (file, rank)

/-- Asks about the piece, neither about the turn nor about legality. -/
def isPromotion (source here : Coord) : Bool :=
  match positionOf rules status with
  | none => false
  | some pos =>
    match pieceOn board pos source with
    | none => false
    | some (color, role) =>
      if role ≠ .pawn then false
      else decide (color = .white ∧ here.2 = 8 ∨ color = .black ∧ here.2 = 1)

structure Screen where
  selected : Option Coord
  promoting : Option (Coord × Coord)
  sent : List String

def Screen.start : Screen := ⟨none, none, []⟩

def click (screen : Screen) (sq : Square) : Screen :=
  if status.isOver ∨ orientation ≠ status.turn then screen
  else
    match screen.selected with
    | some source =>
      if sq.marker = .legalTarget then
        -- played, unless it promotes
        if isPromotion board status source sq.coord then
          { screen with promoting := some (source, sq.coord), selected := none }
        else { screen with sent := screen.sent ++ [uci source sq.coord none], selected := none }
      else if source = sq.coord then { screen with selected := none }
      else { screen with selected := some sq.coord }
    | none => { screen with selected := some sq.coord }

inductive Event where
  | click (here : Coord)
  | pick (piece : Char)

/-- An event on the rendered screen; `none` where nothing is shown that it could happen to. -/
def step (screen : Screen) : Event → Option Screen
  | .click here =>
    ((squares board status orientation screen.selected).find? fun sq => decide (sq.coord = here)).map
      (click board status orientation screen)
  | .pick piece =>
    match screen.promoting with
    | none => none
    | some (source, here) =>
      if pieces.contains piece then
        some { screen with sent := screen.sent ++ [uci source here (some piece)], promoting := none }
      else none

def run (screen : Screen) (events : List Event) : Option Screen :=
  events.foldlM (step board status orientation) screen

end Status

def playMoveCheck (rules : Rules) (crypto : Crypto) (state : GameState) (params : GameParams) (side : Side)
    (uci : String) : Except SessionError Unit :=
  let status := state.project rules crypto params
  if status.isOver then .error (.bail "the game is already over")
  else if Side.ofColor status.turn ≠ side then .error (.bail "it is not your turn")
  else if !(state.legalMoves rules crypto params).any (· == uci) then
    .error (.bail (uci ++ " is not a legal move in the current position"))
  else .ok ()

def OnBoard (here : Coord) : Prop := here.1 ∈ files ∧ here.2 ∈ ranks .white

instance decidableOnBoard (here : Coord) : Decidable (OnBoard here) := inferInstanceAs (Decidable (_ ∧ _))

section Spelling
variable {source here source' here' : Coord} {letter letter' : Option Char}

theorem toString_rank : ∀ rank ∈ ranks .white, (toString rank.val).toList = [rank.val.digitChar] := by
  decide +kernel

theorem toDigit_rank : ∀ rank ∈ ranks .white, toDigit rank.val.digitChar = some rank := by
  decide +kernel

theorem uciOf_toList (on : OnBoard here) : (uciOf here).toList = [here.1, here.2.val.digitChar] := by
  rw [uciOf, String.toList_append, toString_rank _ on.2]
  simp [Char.toString]

theorem uci_toList (on : OnBoard source) (on' : OnBoard here) : (uci source here letter).toList =
    [source.1, source.2.val.digitChar, here.1, here.2.val.digitChar] ++ letter.toList := by
  cases letter <;> simp [uci, uciOf_toList on, uciOf_toList on', Char.toString]

theorem target_uci (on : OnBoard source) (on' : OnBoard here) : target (uci source here letter) = some here := by
  simp [target, uci_toList on on', toDigit_rank _ on'.2]

theorem digitChar_injective (on : OnBoard source) (on' : OnBoard source')
    (same : source.2.val.digitChar = source'.2.val.digitChar) : source.2 = source'.2 := by
  have read := toDigit_rank _ on.2
  rw [same, toDigit_rank _ on'.2] at read
  exact (Option.some.inj read).symm

theorem isPrefixOf_uci (on : OnBoard source) (on' : OnBoard source') (on'' : OnBoard here) :
    (uciOf source).toList.isPrefixOf (uci source' here letter).toList = true ↔ source = source' := by
  rw [uciOf_toList on, uci_toList on' on'']
  simp only [List.cons_append, List.isPrefixOf_cons_cons, List.isPrefixOf_nil_left, Bool.and_true, Bool.and_eq_true,
    beq_iff_eq]
  constructor
  · intro same
    exact Prod.ext same.1 (digitChar_injective on on' same.2)
  · intro same
    rw [same]
    exact ⟨rfl, rfl⟩

theorem uci_injective (on : OnBoard source) (on' : OnBoard here) (other : OnBoard source') (other' : OnBoard here')
    (same : uci source here letter = uci source' here' letter') :
    source = source' ∧ here = here' ∧ letter = letter' := by
  have sources : (uciOf source).toList.isPrefixOf (uci source here letter).toList = true :=
    (isPrefixOf_uci on on on').2 rfl
  rw [same, isPrefixOf_uci on other other'] at sources
  have heres : target (uci source here letter) = some here := target_uci on on'
  rw [same, target_uci other other', Option.some.injEq] at heres
  subst sources heres
  refine ⟨rfl, rfl, ?_⟩
  have lists := congrArg String.toList same
  rw [uci_toList on on', uci_toList on on', List.append_cancel_left_eq] at lists
  cases letter <;> cases letter' <;> simp_all

end Spelling

section Rendering
variable {rules : Rules} {board : Chessboard rules} {status : Status} {orientation : Color}
  {selected : Option Coord} {sq : Square} {source here : Coord}

theorem squares_black :
    squares board status .black selected = (squares board status .white selected).reverse := by
  rw [squares, squares, List.reverse_flatMap]
  simp only [Function.comp_def, ← List.map_reverse]
  rfl

theorem mem_squares_white : sq ∈ squares board status .white selected ↔
    OnBoard sq.coord ∧ sq = square board status selected sq.coord := by
  simp only [squares, List.mem_flatMap, List.mem_map]
  constructor
  · rintro ⟨rank, onRank, file, onFile, rfl⟩
    exact ⟨⟨onFile, onRank⟩, rfl⟩
  · rintro ⟨⟨onFile, onRank⟩, same⟩
    exact ⟨sq.rank, onRank, sq.file, onFile, same.symm⟩

theorem mem_squares : sq ∈ squares board status orientation selected ↔
    OnBoard sq.coord ∧ sq = square board status selected sq.coord := by
  cases orientation
  · exact mem_squares_white
  · rw [squares_black, List.mem_reverse, mem_squares_white]

theorem square_mem (on : OnBoard here) :
    square board status selected here ∈ squares board status orientation selected :=
  mem_squares.2 ⟨on, rfl⟩

theorem find_squares (here : Coord) :
    (squares board status orientation selected).find? (fun sq => decide (sq.coord = here)) =
      if OnBoard here then some (square board status selected here) else none := by
  split_ifs with on
  · cases found : (squares board status orientation selected).find? (fun sq => decide (sq.coord = here)) with
    | none => exact absurd (decide_eq_true rfl) (List.find?_eq_none.1 found _ (square_mem on))
    | some sq =>
      have same : sq.coord = here := by simpa using List.find?_some found
      rw [(mem_squares.1 (List.mem_of_find?_eq_some found)).2, same]
  · refine List.find?_eq_none.2 fun sq listed same => on ?_
    rw [← of_decide_eq_true same]
    exact (mem_squares.1 listed).1

def Marked (board : Chessboard rules) (status : Status) (orientation : Color) (source here : Coord) : Prop :=
  ∃ sq ∈ squares board status orientation (some source), sq.coord = here ∧ sq.marker = .legalTarget

theorem marker_eq_legalTarget : (square board status (some source) here).marker = .legalTarget ↔
    source ≠ here ∧ here ∈ targets rules status (some source) := by
  simp only [square, Option.some.injEq]
  split_ifs with same listed
  · simp [same]
  · simpa [same] using listed
  · simpa [same] using listed

theorem marked_iff : Marked board status orientation source here ↔
    OnBoard here ∧ source ≠ here ∧ here ∈ targets rules status (some source) := by
  constructor
  · rintro ⟨sq, listed, rfl, marked⟩
    obtain ⟨on, same⟩ := mem_squares.1 listed
    rw [same] at marked
    exact ⟨on, marker_eq_legalTarget.1 marked⟩
  · rintro ⟨on, marked⟩
    exact ⟨_, square_mem on, rfl, marker_eq_legalTarget.2 marked⟩

end Rendering

section Chess
variable {rules : Rules} (board : Chessboard rules)

def Listed (rules : Rules) (pos : rules.Position) (source here : Coord) (letter : Option Char) : Prop :=
  OnBoard source ∧ OnBoard here ∧
    ∃ mv ∈ rules.legalMoves pos, rules.uciString (rules.fromMove mv) = uci source here letter

def lastRank : Color → Byte
  | .white => 8
  | .black => 1

def Promotes (pos : rules.Position) (source here : Coord) : Prop :=
  pieceOn board pos source = some (rules.turn pos, .pawn) ∧ here.2 = lastRank (rules.turn pos)

/-- Legal moves are listed as from, to and an optional promotion letter, and move a piece of
the player to move; all four promotions are listed exactly for pawn moves to the last rank. -/
structure Chessboard.Lists : Prop where
  spelled : ∀ (pos : rules.Position), ∀ mv ∈ rules.legalMoves pos, ∃ source here : Coord, ∃ letter : Option Char,
    OnBoard source ∧ OnBoard here ∧ source ≠ here ∧ rules.uciString (rules.fromMove mv) = uci source here letter
  own : ∀ (pos : rules.Position) (source here : Coord) (letter : Option Char), Listed rules pos source here letter →
    ∃ role, pieceOn board pos source = some (rules.turn pos, role)
  promotes : ∀ (pos : rules.Position) (source here : Coord) (letter : Option Char),
    Listed rules pos source here letter → Promotes board pos source here →
      ∀ letter', Listed rules pos source here letter' ↔ ∃ piece ∈ pieces, letter' = some piece
  plain : ∀ (pos : rules.Position) (source here : Coord) (letter : Option Char),
    Listed rules pos source here letter → ¬Promotes board pos source here → letter = none

end Chess

section Moves
variable {rules : Rules} {board : Chessboard rules} {status : Status} {orientation : Color} {source here : Coord}
  {letter letter' : Option Char} {mv : String} {pos : rules.Position}

theorem mem_legalMovesFor (lists : board.Lists) : mv ∈ legalMovesFor rules status ↔
    ∃ (pos : rules.Position) (source here : Coord) (letter : Option Char), positionOf rules status = some pos ∧
      source ≠ here ∧ Listed rules pos source here letter ∧ mv = uci source here letter := by
  unfold legalMovesFor
  cases parsed : positionOf rules status with
  | none => simp
  | some pos =>
    simp only [List.mem_map, Option.some.injEq, exists_and_left, exists_eq_left']
    constructor
    · rintro ⟨move, listed, rfl⟩
      obtain ⟨source, here, letter, on, on', differ, spelled⟩ := lists.spelled pos move listed
      exact ⟨source, here, differ, letter, ⟨on, on', move, listed, spelled⟩, spelled⟩
    · rintro ⟨source, here, -, letter, ⟨-, -, move, listed, spelled⟩, rfl⟩
      exact ⟨move, listed, spelled⟩

theorem uci_mem_legalMovesFor (on : OnBoard source) (on' : OnBoard here)
    (parsed : positionOf rules status = some pos) :
    uci source here letter ∈ legalMovesFor rules status ↔ Listed rules pos source here letter := by
  simp [legalMovesFor, parsed, Listed, on, on']

theorem mem_targets (lists : board.Lists) (open' : status.decision = none) (on : OnBoard source) :
    here ∈ targets rules status (some source) ↔
      OnBoard here ∧ source ≠ here ∧ ∃ letter, uci source here letter ∈ legalMovesFor rules status := by
  simp only [targets, open', Option.isNone_none, List.mem_filterMap, List.mem_filter]
  constructor
  · rintro ⟨mv, ⟨listed, starts⟩, read⟩
    obtain ⟨pos, source', here', letter, parsed, differ, legal, rfl⟩ := (mem_legalMovesFor lists).1 listed
    obtain rfl := (isPrefixOf_uci on legal.1 legal.2.1).1 starts
    rw [target_uci on legal.2.1, Option.some.injEq] at read
    subst read
    exact ⟨legal.2.1, differ, letter, listed⟩
  · rintro ⟨on', -, letter, listed⟩
    exact ⟨_, ⟨listed, (isPrefixOf_uci on on on').2 rfl⟩, target_uci on on'⟩

theorem ne_of_mem (lists : board.Lists) (on : OnBoard source) (on' : OnBoard here)
    (listed : uci source here letter ∈ legalMovesFor rules status) : source ≠ here := by
  obtain ⟨pos, source', here', letter', -, differ, legal, same⟩ := (mem_legalMovesFor lists).1 listed
  obtain ⟨rfl, rfl, -⟩ := uci_injective on on' legal.1 legal.2.1 same
  exact differ

theorem marked_iff_mem (lists : board.Lists) (open' : status.decision = none) (on : OnBoard source) :
    Marked board status orientation source here ↔
      OnBoard here ∧ ∃ letter, uci source here letter ∈ legalMovesFor rules status := by
  rw [marked_iff, mem_targets lists open' on]
  constructor
  · rintro ⟨on', -, -, -, legal⟩
    exact ⟨on', legal⟩
  · rintro ⟨on', letter, listed⟩
    have differ := ne_of_mem lists on on' listed
    exact ⟨on', differ, on', differ, letter, listed⟩

theorem isPromotion_iff (lists : board.Lists) (parsed : positionOf rules status = some pos)
    (listed : Listed rules pos source here letter) :
    isPromotion board status source here = true ↔ Promotes board pos source here := by
  obtain ⟨role, own⟩ := lists.own pos source here letter listed
  simp only [isPromotion, parsed, own, Promotes, Option.some.injEq, Prod.mk.injEq, true_and]
  split_ifs with officer
  · simp [officer]
  · cases rules.turn pos <;> simp_all [lastRank]

end Moves

/-- Two clicks, and a pick where the move promotes. -/
structure Path where
  source : Coord
  here : Coord
  letter : Option Char

def Path.spelling (path : Path) : String := uci path.source path.here path.letter

def Path.events (path : Path) : List Event :=
  [.click path.source, .click path.here] ++ path.letter.toList.map .pick

section Paths
variable {rules : Rules} (board : Chessboard rules) (status : Status) (orientation : Color)

def letters (source here : Coord) : List (Option Char) :=
  if isPromotion board status source here then pieces.map some else [none]

/-- The board leads along this path: to a target that it marks, and on to one of its pieces. -/
structure Offered (path : Path) : Prop where
  source : OnBoard path.source
  marked : Marked board status orientation path.source path.here
  letter : path.letter ∈ letters board status path.source path.here

variable {board status orientation} {source here : Coord} {letter letter' : Option Char} {path : Path} {mv : String}
  {pos : rules.Position}

theorem mem_letters (lists : board.Lists) (parsed : positionOf rules status = some pos)
    (listed : Listed rules pos source here letter) :
    letter' ∈ letters board status source here ↔ Listed rules pos source here letter' := by
  have promotion := isPromotion_iff lists parsed listed
  unfold letters
  by_cases promotes : Promotes board pos source here
  · rw [if_pos (promotion.2 promotes), lists.promotes pos source here letter listed promotes]
    simp [eq_comm]
  · rw [if_neg (fun answer => promotes (promotion.1 answer)), List.mem_singleton]
    constructor
    · intro none'
      rw [none', ← lists.plain pos source here letter listed promotes]
      exact listed
    · intro other
      exact lists.plain pos source here letter' other promotes

theorem offered_iff (lists : board.Lists) (open' : status.decision = none) :
    Offered board status orientation path ↔
      ∃ pos, positionOf rules status = some pos ∧ Listed rules pos path.source path.here path.letter := by
  constructor
  · rintro ⟨on, marked, picked⟩
    obtain ⟨on', letter, listed⟩ := (marked_iff_mem lists open' on).1 marked
    obtain ⟨pos, -, -, -, parsed, -⟩ := (mem_legalMovesFor lists).1 listed
    have listed' := (uci_mem_legalMovesFor on on' parsed).1 listed
    exact ⟨pos, parsed, (mem_letters lists parsed listed').1 picked⟩
  · rintro ⟨pos, parsed, listed⟩
    have on := listed.1
    have on' := listed.2.1
    have legal := (uci_mem_legalMovesFor on on' parsed).2 listed
    exact ⟨on, (marked_iff_mem lists open' on).2 ⟨on', _, legal⟩, (mem_letters lists parsed listed).2 listed⟩

theorem Offered.legal (offered : Offered board status orientation path) (lists : board.Lists)
    (open' : status.decision = none) : path.spelling ∈ legalMovesFor rules status := by
  obtain ⟨pos, parsed, listed⟩ := (offered_iff lists open').1 offered
  exact (uci_mem_legalMovesFor listed.1 listed.2.1 parsed).2 listed

theorem Marked.legal (marked : Marked board status orientation source here) (lists : board.Lists)
    (open' : status.decision = none) (on : OnBoard source) :
    if isPromotion board status source here then
      ∀ piece ∈ pieces, uci source here (some piece) ∈ legalMovesFor rules status
    else uci source here none ∈ legalMovesFor rules status := by
  have offered : ∀ letter ∈ letters board status source here,
      uci source here letter ∈ legalMovesFor rules status := by
    intro letter picked
    have path : Offered board status orientation ⟨source, here, letter⟩ := ⟨on, marked, picked⟩
    exact path.legal lists open'
  unfold letters at offered
  split_ifs at offered ⊢ with promotes
  · exact fun piece known => offered _ (List.mem_map_of_mem known)
  · exact offered _ (List.mem_singleton_self _)

/-- Each legal move lies at the end of exactly one path. -/
theorem existsUnique_offered (lists : board.Lists) (open' : status.decision = none)
    (legal : mv ∈ legalMovesFor rules status) :
    ∃! path : Path, Offered board status orientation path ∧ path.spelling = mv := by
  obtain ⟨pos, source, here, letter, parsed, -, listed, rfl⟩ := (mem_legalMovesFor lists).1 legal
  refine ⟨⟨source, here, letter⟩, ⟨(offered_iff lists open').2 ⟨pos, parsed, listed⟩, rfl⟩, ?_⟩
  rintro ⟨source', here', letter'⟩ ⟨offered, same⟩
  obtain ⟨pos', -, listed'⟩ := (offered_iff lists open').1 offered
  obtain ⟨rfl, rfl, rfl⟩ := uci_injective listed'.1 listed'.2.1 listed.1 listed.2.1 same
  rfl

end Paths

section Screens
variable {rules : Rules} {board : Chessboard rules} {status : Status} {orientation : Color}
  {screen screen' : Screen} {source here : Coord} {path : Path} {mv : String} {events : List Event} {event : Event}

theorem step_click (here : Coord) : step board status orientation screen (.click here) =
    if OnBoard here then
      some (click board status orientation screen (square board status screen.selected here))
    else none := by
  rw [step, find_squares]
  split_ifs <;> rfl

theorem run_append (before after : List Event) : run board status orientation screen (before ++ after) =
    (run board status orientation screen before).bind fun middle => run board status orientation middle after :=
  List.foldlM_append

section Mover
variable (ours : orientation = status.turn) (open' : status.decision = none)
include ours open'

theorem click_of_selected (chosen : screen.selected = some source) :
    click board status orientation screen (square board status screen.selected here) =
      if (square board status (some source) here).marker = .legalTarget then
        if isPromotion board status source here then
          { screen with promoting := some (source, here), selected := none }
        else { screen with sent := screen.sent ++ [uci source here none], selected := none }
      else if source = here then { screen with selected := none }
      else { screen with selected := some here } := by
  simp [click, Status.isOver, open', ours, chosen, Square.coord, square]

theorem click_of_fresh (chosen : screen.selected = none) :
    click board status orientation screen (square board status screen.selected here) =
      { screen with selected := some here } := by
  simp [click, Status.isOver, open', ours, chosen, Square.coord, square]

theorem run_clicks (on : OnBoard source) (on' : OnBoard here) :
    run board status orientation .start [.click source, .click here] =
      some (click board status orientation ⟨some source, none, []⟩ (square board status (some source) here)) := by
  have first : step board status orientation .start (.click source) = some ⟨some source, none, []⟩ := by
    rw [step_click, if_pos on, click_of_fresh ours open' rfl]
    rfl
  have second : step board status orientation ⟨some source, none, []⟩ (.click here) =
      some (click board status orientation ⟨some source, none, []⟩ (square board status (some source) here)) := by
    rw [step_click, if_pos on']
  simp [run, first, second]

theorem run_target {letter : Option Char}
    (marked : (square board status (some source) here).marker = .legalTarget) :
    (run board status orientation
        (click board status orientation ⟨some source, none, []⟩ (square board status (some source) here))
        (letter.toList.map .pick)).map Screen.sent = some [mv] ↔
      letter ∈ letters board status source here ∧ uci source here letter = mv := by
  have clicked :
      click board status orientation ⟨some source, none, []⟩ (square board status (some source) here) = _ :=
    click_of_selected ours open' rfl
  rw [clicked, if_pos marked]
  by_cases promotes : isPromotion board status source here = true
  · rw [if_pos promotes, letters, if_pos promotes]
    cases letter with
    | none => simp [run]
    | some piece => by_cases known : piece ∈ pieces <;> simp [run, step, known]
  · rw [if_neg promotes, letters, if_neg promotes]
    cases letter <;> simp [run, step]

theorem run_elsewhere {letter : Option Char}
    (unmarked : (square board status (some source) here).marker ≠ .legalTarget) :
    (run board status orientation
        (click board status orientation ⟨some source, none, []⟩ (square board status (some source) here))
        (letter.toList.map .pick)).map Screen.sent ≠ some [mv] := by
  have clicked :
      click board status orientation ⟨some source, none, []⟩ (square board status (some source) here) = _ :=
    click_of_selected ours open' rfl
  rw [clicked, if_neg unmarked]
  cases letter <;> split_ifs <;> simp [run, step]

theorem run_outside (outside : ¬(OnBoard source ∧ OnBoard here)) :
    run board status orientation .start [.click source, .click here] = none := by
  by_cases on : OnBoard source
  · have off : ¬OnBoard here := fun on' => outside ⟨on, on'⟩
    have first : step board status orientation .start (.click source) = some ⟨some source, none, []⟩ := by
      rw [step_click, if_pos on, click_of_fresh ours open' rfl]
      rfl
    simp [run, first, step_click, off]
  · simp [run, step_click, on]

/-- The screen of the player to move submits at the end of a path what the path spells, and
nothing at the end of any other clicks of this form. -/
theorem run_path : (run board status orientation .start path.events).map Screen.sent = some [mv] ↔
    Offered board status orientation path ∧ path.spelling = mv := by
  rw [Path.events, run_append]
  by_cases inside : OnBoard path.source ∧ OnBoard path.here
  · obtain ⟨on, on'⟩ := inside
    rw [run_clicks ours open' on on', Option.bind_some]
    have marker : Marked board status orientation path.source path.here ↔
        (square board status (some path.source) path.here).marker = .legalTarget := by
      rw [marked_iff, marker_eq_legalTarget, and_iff_right on']
    by_cases marked : (square board status (some path.source) path.here).marker = .legalTarget
    · rw [run_target ours open' marked]
      exact and_congr_left fun _ => ⟨fun picked => ⟨on, marker.2 marked, picked⟩, Offered.letter⟩
    · refine iff_of_false (run_elsewhere ours open' marked) ?_
      exact fun ⟨offered, _⟩ => marked (marker.1 offered.marked)
  · rw [run_outside ours open' inside]
    refine iff_of_false (by simp) ?_
    exact fun ⟨offered, _⟩ => inside ⟨offered.source, (marked_iff.1 offered.marked).1⟩

end Mover

theorem click_idle {sq : Square} (theirs : orientation ≠ status.turn) :
    click board status orientation screen sq = screen := by
  rw [click, if_pos (.inr theirs)]

structure Sound (board : Chessboard rules) (status : Status) (orientation : Color) (screen : Screen) : Prop where
  selected : ∀ source, screen.selected = some source → OnBoard source
  promoting : ∀ source here, screen.promoting = some (source, here) →
    ∀ piece ∈ pieces, uci source here (some piece) ∈ legalMovesFor rules status
  sent : ∀ mv ∈ screen.sent, mv ∈ legalMovesFor rules status
  idle : orientation ≠ status.turn → screen.promoting = none ∧ screen.sent = []

theorem sound_start : Sound board status orientation .start where
  selected _ chosen := by cases chosen
  promoting _ _ held := by cases held
  sent _ member := by cases member
  idle _ := ⟨rfl, rfl⟩

theorem Sound.select (sound : Sound board status orientation screen) (chosen : Option Coord)
    (on : ∀ source, chosen = some source → OnBoard source) :
    Sound board status orientation { screen with selected := chosen } :=
  { sound with selected := on }

theorem sound_pick {piece : Char} (sound : Sound board status orientation screen)
    (picked : step board status orientation screen (.pick piece) = some screen') :
    Sound board status orientation screen' := by
  rw [step] at picked
  cases held : screen.promoting with
  | none => simp [held] at picked
  | some squares =>
    obtain ⟨source, here⟩ := squares
    simp only [held] at picked
    split_ifs at picked with known
    obtain rfl := Option.some.inj picked
    refine ⟨sound.selected, (fun _ _ none' => by cases none'), ?_, fun theirs => ?_⟩
    · intro mv member
      rcases List.mem_append.1 member with earlier | latest
      · exact sound.sent mv earlier
      · rw [List.mem_singleton.1 latest]
        exact sound.promoting source here held piece (List.contains_iff_mem.1 known)
    · rw [(sound.idle theirs).1] at held
      cases held

section Undecided
variable (lists : board.Lists) (open' : status.decision = none)
include lists open'

theorem sound_click (sound : Sound board status orientation screen) (on : OnBoard here) :
    Sound board status orientation
      (click board status orientation screen (square board status screen.selected here)) := by
  by_cases ours : orientation = status.turn
  · cases chosen : screen.selected with
    | none =>
      rw [← chosen, click_of_fresh ours open' chosen]
      exact sound.select _ fun source same => Option.some.inj same ▸ on
    | some source =>
      have onSource := sound.selected source chosen
      rw [← chosen, click_of_selected ours open' chosen]
      split_ifs with marker promotes same
      · have marked : Marked board status orientation source here :=
          marked_iff.2 ⟨on, marker_eq_legalTarget.1 marker⟩
        have legal := marked.legal lists open' onSource
        rw [if_pos promotes] at legal
        refine ⟨(fun _ none' => by cases none'), ?_, sound.sent, fun theirs => absurd ours theirs⟩
        intro source' here' held
        obtain ⟨rfl, rfl⟩ := Prod.mk.inj (Option.some.inj held)
        exact legal
      · have marked : Marked board status orientation source here :=
          marked_iff.2 ⟨on, marker_eq_legalTarget.1 marker⟩
        have legal := marked.legal lists open' onSource
        rw [if_neg promotes] at legal
        refine ⟨(fun _ none' => by cases none'), sound.promoting, ?_, fun theirs => absurd ours theirs⟩
        intro mv member
        rcases List.mem_append.1 member with earlier | latest
        · exact sound.sent mv earlier
        · rw [List.mem_singleton.1 latest]
          exact legal
      · exact sound.select _ fun _ none' => by cases none'
      · exact sound.select _ fun source same => Option.some.inj same ▸ on
  · rw [click_idle ours]
    exact sound

theorem sound_step (sound : Sound board status orientation screen)
    (taken : step board status orientation screen event = some screen') :
    Sound board status orientation screen' := by
  cases event with
  | click here =>
    rw [step_click] at taken
    split_ifs at taken with on
    obtain rfl := Option.some.inj taken
    exact sound_click lists open' sound on
  | pick piece => exact sound_pick sound taken

theorem sound_run (sound : Sound board status orientation screen)
    (ran : run board status orientation screen events = some screen') :
    Sound board status orientation screen' := by
  induction events generalizing screen with
  | nil =>
    obtain rfl := Option.some.inj ran
    exact sound
  | cons event rest ih =>
    rw [run, List.foldlM_cons] at ran
    obtain ⟨middle, taken, rest'⟩ := Option.bind_eq_some_iff.1 ran
    exact ih (sound_step lists open' sound taken) rest'

end Undecided

end Screens

theorem legalMoves_eq {rules : Rules} {crypto : Crypto} {state : GameState} {params : GameParams} {status : Status}
    (produced : state.project rules crypto params = status) (open' : status.decision = none) :
    state.legalMoves rules crypto params = legalMovesFor rules status := by
  subst produced
  simp only [legalMoves, Status.isOver, open', Option.isSome_none, Bool.false_eq_true, if_false]
  rfl

theorem playMoveCheck_eq_ok {rules : Rules} {crypto : Crypto} {state : GameState} {params : GameParams}
    {side : Side} {status : Status} {mv : String} (produced : state.project rules crypto params = status)
    (open' : status.decision = none) (ours : side.toColor = status.turn)
    (legal : mv ∈ state.legalMoves rules crypto params) :
    playMoveCheck rules crypto state params side mv = .ok () := by
  have turn : Side.ofColor status.turn = side := by
    rw [← ours]
    cases side <;> rfl
  simp [playMoveCheck, produced, Status.isOver, open', turn, legal]

/-- On the board of an undecided game, seen from either side: the marked squares are where
the legal moves go; what a target leads to is legal; every legal move lies at the end of
exactly one path. The screen of the player to move submits it there, and whatever is clicked
and picked, a screen submits nothing that `play_move` would not take. -/
theorem board_offers_playable (rules : Rules) (board : Chessboard rules) (crypto : Crypto) (state : GameState)
    (params : GameParams) (status : Status) (side : Side) (lists : board.Lists)
    (produced : state.project rules crypto params = status) (open' : status.decision = none) :
    (∀ source here : Coord, OnBoard source → (Marked board status side.toColor source here ↔
      OnBoard here ∧ ∃ letter : Option Char, uci source here letter ∈ state.legalMoves rules crypto params)) ∧
    (∀ source here : Coord, OnBoard source → Marked board status side.toColor source here →
      if isPromotion board status source here then
        ∀ piece ∈ ['q', 'r', 'b', 'n'], uci source here (some piece) ∈ state.legalMoves rules crypto params
      else uci source here none ∈ state.legalMoves rules crypto params) ∧
    (∀ mv ∈ state.legalMoves rules crypto params,
      ∃! path : Path, Offered board status side.toColor path ∧ path.spelling = mv) ∧
    (side.toColor = status.turn → ∀ mv ∈ state.legalMoves rules crypto params,
      ∃! path : Path, (run board status side.toColor .start path.events).map Screen.sent = some [mv]) ∧
    ∀ (events : List Event) (screen : Screen), run board status side.toColor .start events = some screen →
      ∀ mv ∈ screen.sent, playMoveCheck rules crypto state params side mv = .ok () := by
  have same := legalMoves_eq produced open'
  rw [same]
  refine ⟨fun source here on => marked_iff_mem lists open' on, fun source here on marked => ?_, fun mv legal => ?_,
    fun ours mv legal => ?_, fun events screen ran mv member => ?_⟩
  · exact marked.legal lists open' on
  · exact existsUnique_offered lists open' legal
  · simp only [run_path ours open']
    exact existsUnique_offered lists open' legal
  · have sound := sound_run lists open' sound_start ran
    by_cases ours : side.toColor = status.turn
    · exact playMoveCheck_eq_ok produced open' ours (same ▸ sound.sent mv member)
    · rw [(sound.idle ours).2] at member
      cases member

def homeRank : List Role := [.rook, .knight, .bishop, .queen, .king, .bishop, .knight, .rook]

/-- The pieces where they start. The sample games move only pawns that have not moved. -/
def sampleBoard : Chessboard Sample.rules where
  Square := Coord
  fromAscii name := (files.flatMap fun file => (ranks .white).map fun rank => (file, rank)).find? fun here =>
    decide (utf8 (uciOf here) = name)
  pieceAt _ here :=
    if here.2 = 2 then some (.white, .pawn)
    else if here.2 = 7 then some (.black, .pawn)
    else if here.2 = 1 then (homeRank[files.idxOf here.1]?).map (Prod.mk .white)
    else if here.2 = 8 then (homeRank[files.idxOf here.1]?).map (Prod.mk .black)
    else none

def sampleMoves : List (Coord × Coord) := [(('e', 2), ('e', 4)), (('d', 2), ('d', 4)), (('e', 7), ('e', 5))]

theorem sampleMoves_inside : ∀ move ∈ sampleMoves, OnBoard move.1 ∧ OnBoard move.2 ∧ move.1 ≠ move.2 := by
  decide +kernel

theorem sample_continuation {line : List String} {mv : String} (legal : mv ∈ Sample.continuations line) :
    ∃ move ∈ sampleMoves, mv = uci move.1 move.2 none ∧
      pieceOn sampleBoard line move.1 = some (Sample.rules.turn line, .pawn) ∧
      move.2.2 ≠ lastRank (Sample.rules.turn line) := by
  have known : line ++ [mv] ∈ Sample.lines := by simpa using (List.mem_filter.1 legal).2
  have last : (line ++ [mv]).getLast? = some mv := List.getLast?_concat
  have before : (line ++ [mv]).dropLast = line := List.dropLast_concat
  have checked : ∀ whole ∈ Sample.lines, ∀ mv ∈ whole.getLast?,
      ∃ move ∈ sampleMoves, mv = uci move.1 move.2 none ∧
        pieceOn sampleBoard whole.dropLast move.1 = some (Sample.rules.turn whole.dropLast, .pawn) ∧
        move.2.2 ≠ lastRank (Sample.rules.turn whole.dropLast) := by
    decide +kernel
  have found := checked _ known mv last
  rwa [before] at found

theorem sample_listed {line : List String} {source here : Coord} {letter : Option Char}
    (listed : Listed Sample.rules line source here letter) :
    letter = none ∧ pieceOn sampleBoard line source = some (Sample.rules.turn line, .pawn) ∧
      here.2 ≠ lastRank (Sample.rules.turn line) := by
  obtain ⟨on, on', mv, legal, spelled⟩ := listed
  obtain ⟨move, member, same, pawn, short⟩ := sample_continuation legal
  obtain ⟨from', to', -⟩ := sampleMoves_inside move member
  obtain ⟨rfl, rfl, rfl⟩ := uci_injective on on' from' to' (spelled.symm.trans same)
  exact ⟨rfl, pawn, short⟩

theorem sample_lists : sampleBoard.Lists where
  spelled line mv legal := by
    obtain ⟨move, member, same, -⟩ := sample_continuation legal
    obtain ⟨from', to', differ⟩ := sampleMoves_inside move member
    exact ⟨move.1, move.2, none, from', to', differ, same⟩
  own line source here letter listed := ⟨.pawn, (sample_listed listed).2.1⟩
  promotes line source here letter listed promotes := absurd promotes.2 (sample_listed listed).2.2
  plain line source here letter listed _ := (sample_listed listed).1

theorem board_offers_playable_opening : ∃! path : Path,
    (run sampleBoard (GameState.empty.project Sample.rules Sample.crypto Sample.params) .white .start
      path.events).map Screen.sent = some ["e2e4"] :=
  (board_offers_playable Sample.rules sampleBoard Sample.crypto GameState.empty Sample.params _ .white sample_lists
    rfl (by decide +kernel)).2.2.2.1 (by decide +kernel) "e2e4" (by decide +kernel)

end Adjourn.Board
