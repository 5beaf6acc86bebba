import DeckScript.Command.Line
import DeckScript.Command.Name
import DeckScript.Command.Result
import DeckScript.Deck.History
import DeckScript.Deck.Store
import DeckScript.Log
import DeckScript.Text.Case

/-!
# Sessions

A session runs command lines against a store and keeps the history.  Each command
reads the deck, works out one or two actions from the positions it was given, and
dispatches them.  What goes wrong on the way is reported with the last code of the
command's block; actions that were already carried out stay.

After a command that changes the deck has succeeded, the deck is read once more for
the snapshot.  If that fails the command is reported as failed although its change
was made.
-/

namespace DeckScript

/-- The default beginning of the ids of new slides. -/
def Session.defaultStem : String := "o-impress-"

/-- The default distance between new slides. -/
def Session.defaultSpacing : Int := 900

/-- The state of a session. -/
structure Session where
  store : Store
  history : History
  /-- Other names of commands, in lower case. -/
  aliases : Table String := .empty
  /-- The beginning of the ids of new slides. -/
  idStem : String := Session.defaultStem
  /-- The distance between new slides. -/
  spacing : Int := Session.defaultSpacing
  /-- The time in seconds. -/
  now : Number
  log : Array LogEntry := #[]
deriving Repr

/-- Why a command broke off. -/
inductive CommandError where
  | store (error : StoreError)
  | number (error : NumberError)
  | emptyDeck
deriving Repr, DecidableEq

/-- The wording of an error. -/
def CommandError.message : CommandError → String
  | store error => error.message
  | number error => error.message
  | emptyDeck => "the deck has no slides"

namespace Session

/-- What the title of a copy ends with. -/
def copySuffix : String := " (copy)"

/-- A session on a deck, with the deck as the baseline of the history. -/
def start (deck : Deck) (aliases : Table String) (idStem : String) (spacing : Int)
    (now : Number) : Session :=
  { store := { slides := deck }
    history := .start (some deck)
    aliases
    idStem
    spacing
    now }

/-- The session with one more log entry. -/
def logged (session : Session) (level : Level) (message : String) : Session :=
  { session with log := session.log.push ⟨level, message⟩ }

/-- A step of a command. -/
abbrev Step := Attempt Session CommandError

/-- The deck. -/
def readDeck : Step Deck :=
  .on store (fun store session => { session with store }) (.store ∘ .offline) Store.read

/-- Carries out an action on the deck. -/
def dispatch (action : Action) : Step Unit :=
  .on store (fun store session => { session with store }) .store (Store.dispatch action)

/-- A conversion of numbers or texts. -/
def convert {α : Type} (result : Except NumberError α) : Step α :=
  .ofExcept .number result

/-! ## Parameters -/

/-- The slide at a position, if there is one. -/
def slideAt? (deck : Deck) : Option Int → Option (Nat × Slide)
  | none => none
  | some index =>
    if 0 ≤ index then deck[index.toNat]?.map fun slide => (index.toNat, slide) else none

/-- An integer parameter, or a default where there is none. -/
def integerOr (params : Params) (key : String) (default : Int) : Step Int := do
  let value ← convert ((params.get? key).getD .none).integer?
  return value.getD default

/-- The parameter `text`, if it is there and not empty. -/
def textParameter? (params : Params) : Step (Option String) :=
  match params.get? "text" with
  | none => pure none
  | some (.text "") => pure none
  | some value => do
    let text ← convert value.parameterText
    return some text

/-- A parameter as it is shown when it is no position in the deck. -/
def shown (params : Params) (key : String) (default : Option Int) : Step String :=
  match params.get? key with
  | some value => convert value.describe
  | none =>
    match default with
    | some index => convert (Number.writeInt index)
    | none => pure "None"

/-! ## Ids of new slides -/

/-- The time in whole milliseconds. -/
def stamp : Number → Except NumberError Int
  | .int seconds => .ok (seconds * 1000)
  | .real seconds => (Number.real (seconds.scale 1000)).integerPart

/-- The id that ends with the least number, from `stamp` on, that no id in `taken` ends with.
`attempts` numbers are tried before one is taken untried. -/
def freshId (taken : List String) (stem : String) : Nat → Int → Except NumberError String
  | 0, stamp => (Number.writeInt stamp).map (stem ++ ·)
  | attempts + 1, stamp =>
    match Number.writeInt stamp with
    | .error error => .error error
    | .ok digits =>
      if taken.contains (stem ++ digits) then freshId taken stem attempts (stamp + 1)
      else .ok (stem ++ digits)

/-- An id that no slide of the deck has.  As many numbers as there are slides cannot all be
taken, so one more than that needs no trial. -/
def newId (deck : Deck) : Step String := do
  let session ← .get
  let start ← convert (stamp session.now)
  convert (freshId (deck.map Slide.id) session.idStem deck.length start)

/-! ## Commands that change the deck -/

/-- `new-slide`: appends a slide. -/
def newSlide (params : Params) : Step CommandResult := do
  let deck ← readDeck
  let session ← .get
  let id ← newId deck
  let title ←
    match params.get? "slide" with
    | some title =>
      if title.isTruthy then convert title.parameterText
      else pure ("Slide " ++ deck.length.repr)
    | none => pure ("Slide " ++ deck.length.repr)
  let content ←
    match params.get? "content" with
    | some content => if content.isTruthy then convert content.parameterText else pure ""
    | none => pure ""
  let x ← integerOr params "x" (deck.length * session.spacing)
  let y ← integerOr params "y" 0
  let z ← integerOr params "z" 0
  let scale :=
    match params.get? "scale" with
    | some (.number scale) => scale
    | _ => .int 1
  let rotate ← integerOr params "rotate" 0
  let rotateX ← integerOr params "rotateX" 0
  let rotateY ← integerOr params "rotateY" 0
  let rotateZ ← integerOr params "rotateZ" 0
  dispatch (.add
    { id, title, content
      position :=
        { x := .int x, y := .int y, z := .int z, scale
          rotate := .int rotate, rotateX := .int rotateX, rotateY := .int rotateY
          rotateZ := .int rotateZ } })
  return .ok ("Created new slide: " ++ id) (.dict [("id", .text id), ("title", .text title)])

/-- `set-slide-title`: replaces the title of a slide, of the overview unless told otherwise. -/
def setSlideTitle (params : Params) : Step CommandResult := do
  match ← textParameter? params with
  | none => return .failure .titleMissing "text parameter required"
  | some text =>
    let deck ← readDeck
    let index ← convert ((params.get? "slideIndex").getD (.int 0)).integer?
    match slideAt? deck index with
    | none =>
      let given ← shown params "slideIndex" index
      return .failure .titleIndex ("Invalid slide index: " ++ given)
    | some (index, slide) =>
      dispatch (.edit slide.id "title" text)
      return .ok ("Set slide title to: " ++ text)
        (.dict [("index", .int index), ("title", .text text)])

/-- `add-text`: adds a line to the content of a slide, of the last one unless told otherwise. -/
def addText (params : Params) : Step CommandResult := do
  match ← textParameter? params with
  | none => return .failure .textMissing "text parameter required"
  | some text =>
    let deck ← readDeck
    let index ← convert ((params.get? "slideIndex").getD (.int (deck.length - 1))).integer?
    match slideAt? deck index with
    | none =>
      let given ← shown params "slideIndex" index
      return .failure .textIndex ("Invalid slide index: " ++ given)
    | some (index, slide) =>
      let content := if slide.content.isEmpty then text else slide.content ++ "\n" ++ text
      dispatch (.edit slide.id "content" content)
      return .ok ("Added text to slide " ++ index.repr)
        (.dict [("slideIndex", .int index), ("text", .text text)])

/-- `delete-slide`: removes a slide other than the overview.  The store removes only the active
slide, so the slide is made active first. -/
def deleteSlide (params : Params) : Step CommandResult := do
  let deck ← readDeck
  let index ← convert ((params.get? "number").getD (.int 0)).integer?
  if index = some 0 then
    return .failure .deleteProtected "Cannot delete the overview slide (#0)"
  else
    match slideAt? deck index with
    | none =>
      let given ← shown params "number" index
      return .failure .deleteIndex ("Invalid slide number: " ++ given)
    | some (index, slide) =>
      dispatch (.activate slide.id)
      dispatch .deleteActive
      return .ok ("Deleted slide " ++ index.repr) (.dict [("deletedIndex", .int index)])

/-- `duplicate-slide`: appends a copy of a slide. -/
def duplicateSlide (params : Params) : Step CommandResult := do
  match params.get? "number" with
  | none => return .failure .duplicateMissing "number parameter required"
  | some number =>
    let deck ← readDeck
    let index ← convert number.integer?
    match slideAt? deck index with
    | none =>
      let given ← convert number.describe
      return .failure .duplicateIndex ("Invalid slide number: " ++ given)
    | some (index, source) =>
      let id ← newId deck
      dispatch (.add { source with id, title := source.title ++ copySuffix, active := false })
      return .ok ("Duplicated slide " ++ index.repr)
        (.dict [("sourceIndex", .int index), ("newId", .text id)])

/-! ## Moving around -/

/-- `goto-slide`: makes a slide the active one. -/
def gotoSlide (params : Params) : Step CommandResult := do
  match params.get? "number" with
  | none => return .failure .gotoMissing "number parameter required"
  | some number =>
    let deck ← readDeck
    let index ← convert number.integer?
    match slideAt? deck index with
    | none =>
      let given ← convert number.describe
      return .failure .gotoIndex ("Invalid slide number: " ++ given)
    | some (index, target) =>
      dispatch (.activate target.id)
      return .ok ("Went to slide " ++ index.repr ++ ": " ++ target.title)
        (.dict [("index", .int index), ("title", .text target.title)])

/-! ## Questions -/

/-- The line of a slide in the list of slides. -/
def summary (index : Nat) (slide : Slide) : Value :=
  .dict
    [("index", .int index), ("id", .text slide.id), ("title", .text slide.title),
     ("contentLength", .int slide.content.length),
     ("position", .dict [("x", .number slide.position.x), ("y", .number slide.position.y)])]

/-- `list-slides`: a line for each slide. -/
def listSlides : Step CommandResult := do
  let deck ← readDeck
  return .ok ("Found " ++ deck.length.repr ++ " slides")
    (.list (deck.zipIdx.map fun place => summary place.2 place.1))

/-- `get-current-slide`: the active slide, or the first if none is active. -/
def getCurrentSlide : Step CommandResult := do
  let deck ← readDeck
  let index := deck.activeIndex?.getD 0
  match deck[index]? with
  | none => .fail .emptyDeck
  | some slide =>
    return .ok ("Current slide: " ++ slide.title)
      (.dict
        [("index", .int index), ("id", .text slide.id), ("title", .text slide.title),
         ("content", .text slide.content)])

/-- `get-slides`: the whole deck. -/
def getSlides : Step CommandResult := do
  let deck ← readDeck
  return .ok ("Retrieved " ++ deck.length.repr ++ " slides") deck.toValue

/-- `get-slide-info`: all about a slide, the overview unless told otherwise. -/
def getSlideInfo (params : Params) : Step CommandResult := do
  let deck ← readDeck
  let index ← convert ((params.get? "number").getD (.int 0)).integer?
  match slideAt? deck index with
  | none =>
    let given ← shown params "number" (some 0)
    return .failure .infoIndex ("Invalid slide number: " ++ given)
  | some (index, slide) =>
    return .ok ("Slide " ++ index.repr ++ " info")
      (.dict (slide.entries ++ [("index", .int index)]))

/-! ## Undo and redo -/

/-- The payload of a successful undo or redo. -/
def historyPayload (session : Session) : Value :=
  .dict [("historyIndex", .int session.history.index)]

/-- `undo`: moves the cursor back, then sets the deck to the snapshot there. -/
def undo : Step CommandResult := do
  let session ← .get
  match session.history.undo with
  | .error _ => return .failure .nothingToUndo "Nothing to undo"
  | .ok (slides, history) =>
    .modify fun session => { session with history }
    dispatch (.replaceAll slides)
    let session ← .get
    return .ok "Undo executed" (historyPayload session)

/-- `redo`: moves the cursor forward, then sets the deck to the snapshot there. -/
def redo : Step CommandResult := do
  let session ← .get
  match session.history.redo with
  | .error _ => return .failure .nothingToRedo "Nothing to redo"
  | .ok (slides, history) =>
    .modify fun session => { session with history }
    dispatch (.replaceAll slides)
    let session ← .get
    return .ok "Redo executed" (historyPayload session)

/-! ## Running commands -/

/-- Runs a step; a failure on the way becomes a result with the given code. -/
def guarded (code : ErrorCode) (what : String) (step : Step CommandResult) (session : Session) :
    CommandResult × Session :=
  match step.run session with
  | (.ok result, session) => (result, session)
  | (.error error, session) => (.failure code ("Failed to " ++ what ++ ": " ++ error.message), session)

/-- Carries out a command. -/
def perform (params : Params) : Command → Session → CommandResult × Session
  | .newSlide => guarded .newSlide "create slide" (newSlide params)
  | .setSlideTitle => guarded .titleFailed "set slide title" (setSlideTitle params)
  | .addText => guarded .textFailed "add text" (addText params)
  | .listSlides => guarded .listFailed "list slides" listSlides
  | .getCurrentSlide => guarded .currentFailed "get current slide" getCurrentSlide
  | .gotoSlide => guarded .gotoFailed "goto slide" (gotoSlide params)
  | .deleteSlide => guarded .deleteFailed "delete slide" (deleteSlide params)
  | .duplicateSlide => guarded .duplicateFailed "duplicate slide" (duplicateSlide params)
  | .undo => guarded .undoFailed "undo" undo
  | .redo => guarded .redoFailed "redo" redo
  | .getSlides => guarded .slidesFailed "get slides" getSlides
  | .getSlideInfo => guarded .infoFailed "get slide info" (getSlideInfo params)

/-- Replaces an alias by the command it stands for; aliases of unknown commands are left alone. -/
def expandAlias (session : Session) (name : String) : String :=
  let canonical := (session.aliases.get? (Text.lowercase name)).getD name
  if (Command.ofName? canonical).isSome then canonical else name

/-- Adds a snapshot of the deck to the history after a successful command. -/
def recordChange (line : String) (name : String) (params : Params) (result : CommandResult)
    (session : Session) : CommandResult × Session :=
  match Store.read.run session.store with
  | (.ok slides, store) =>
    let history := session.history.record ⟨some name, params, slides⟩
    (result,
      { session with store, history }.logged .info
        (name ++ ": history " ++ (history.index + 1).repr ++ "/" ++ history.size.repr))
  | (.error error, store) =>
    (.failure .runFailed ("Error: " ++ error.reason),
      { session with store }.logged .error (Text.quoted line ++ ": " ++ error.inspect))

/-- Runs a command line. -/
def run (line : String) (session : Session) : CommandResult × Session :=
  let call := CommandLine.ofText line
  let name := session.expandAlias call.name
  match Command.ofName? name with
  | none =>
    (.failure .unknown ("Unknown command: " ++ name),
      session.logged .warning ("Unknown command: " ++ Text.quoted name))
  | some command =>
    match perform call.params command session with
    | (result, session) =>
      if result.success then
        if command.changesDeck then recordChange line name call.params result session
        else (result, session)
      else
        (result,
          session.logged .warning
            (name ++ ": [" ++ result.code.repr ++ "] " ++ result.output))

end Session

end DeckScript
