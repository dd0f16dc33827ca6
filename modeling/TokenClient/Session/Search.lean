import TokenClient.Session.Basic

/-!
# Searches

A search is started with a template, asked for handles as often as wanted, and ended. It hands out each
handle once, see `FindCursor`. `Session.findAll` runs a whole search; it comes to an end whatever the
module answers, and it ends the search however it went.
-/

namespace TokenClient.Session

/-- Starts a search for the objects that match a template. -/
def startFind (session : Session) (template : Template) : Action Unit :=
  match session.openHandle with
  | .error e => session.refuse e
  | .ok handle =>
    match session.tracker.checkSearch with
    | .error refusal => session.refuse refusal.error
    | .ok () =>
      (Program.request (.inSession handle (.findObjectsInit (session.wireTemplate template)))).map fun
        | .ok () => (.ok (), { session with tracker := session.tracker.start .find })
        | .error e => (.error e, session)

/-- The session with another cursor. -/
def withCursor (session : Session) (cursor : FindCursor) : Session :=
  { session with tracker := { session.tracker with cursor := some cursor } }

/-- At most `max` further handles. Once there is nothing new the answer is empty and the module is no
longer asked. A failure of the module leaves the search as it is, and so does a panic, which comes after the module
has given its batch. -/
def find (session : Session) (max : UInt64) : Action (Attempt (List Code)) :=
  match session.openHandle with
  | .error e => session.refuse e
  | .ok handle =>
    match session.tracker.checkActive .find with
    | .error refusal => session.refuse refusal.error
    | .ok () =>
      if max = 0 then session.refuse (.token Rv.argumentsBad)
      else
        match session.tracker.cursor with
        | none => session.refuse (.token Rv.generalError)
        | some cursor =>
          if cursor.exhausted then .done (.ok (some []), session)
          else
            (Program.request (.inSession handle (.findObjects max))).map fun
              | .ok batch =>
                match cursor.filter max batch with
                | some (handles, cursor) => (.ok (some handles), session.withCursor cursor)
                | none => (.ok none, session)
              | .error e => (.error e, session)

/-- Ends a search. The module is always told, even of a search that the tracker does not know. -/
def endFind (session : Session) : Action Unit :=
  match session.openHandle with
  | .error e => session.refuse e
  | .ok handle =>
    (Program.request (.inSession handle .findObjectsFinal)).map fun result =>
      (result, { session with tracker := session.tracker.finish (.single .find) })

/-- How many handles a whole search asks for at a time. -/
def batchSize : UInt64 := 100

/-- Asks for handles until there is nothing new, and gives back all of them. -/
def collect (handle : Code) (cursor : FindCursor) : Program (Except Error (List Code)) :=
  .ask (.inSession handle (.findObjects batchSize)) fun reply =>
    match reply.result with
    | .error e => .done (.error e)
    | .ok batch =>
      if cursor.fresh batchSize batch = [] then .done (.ok cursor.returned)
      else collect handle (cursor.advance batchSize batch)
termination_by cursor.remaining
decreasing_by exact FindCursor.remaining_advance_lt ‹_›

/-- All objects that match a template. -/
def findAll (session : Session) (template : Template) : Action (List Code) :=
  (session.startFind template).bind fun
    | (.error e, session) => session.refuse e
    | (.ok (), session) =>
      match session.openHandle with
      | .error e => session.refuse e
      | .ok handle =>
        (collect handle .start).bind fun found =>
          session.endFind.map fun (ended, session) =>
            (found.bind fun handles => ended.map fun () => handles, session)

end TokenClient.Session
