import TokenClient.Proofs.Session.BulkRead

/-!
# The requests that commands come of

A command that the tracker takes account of does not come of just any request. A session is closed since its
close is requested, an operation is started since its start is requested, and so on; only the commands of a
search come of two requests, as a search of all objects makes them too (`Call.From`). One look at the programs
of all requests shows this (`Session.calls_perform`). What is known of the commands a request can lead to is
read off there.
-/

namespace TokenClient

/-- A request that a call can come of. -/
def Call.From (request : Request) : Call → Prop
  | .inSession _ .closeSession => request = .close
  | .inSession _ (.setOperationState state encryptionKey authenticationKey) =>
    request = .setOperationState state encryptionKey authenticationKey
  | .inSession _ (.sessionCancel flags) => request = .cancel flags
  | .inSession _ (.start start _) => ∃ mechanism, request = .start start mechanism
  | .inSession _ (.step step) => request = .step step
  | .inSession _ (.message step) => request = .message step
  | .inSession _ (.findObjectsInit _) =>
    ∃ template, request = .startFind template ∨ request = .findAll template
  | .inSession _ (.findObjects _) => (∃ max, request = .find max) ∨ ∃ template, request = .findAll template
  | .inSession _ .findObjectsFinal => request = .endFind ∨ ∃ template, request = .findAll template
  | .inSession _ _ => True
  | _ => False

namespace Session

variable {P : Call → Prop} {session : Session}

/-- A forwarded command is the only call. -/
private theorem calls_forward {command : Command} (holds : ∀ handle, P (.inSession handle command)) :
    (session.forward command).AllCalls P := by
  unfold forward
  split
  next => trivial
  next handle _ => exact (Program.allCalls_request (holds handle)).map _

private theorem calls_startFind {template : Template}
    (holds : ∀ handle, P (.inSession handle (.findObjectsInit (session.wireTemplate template)))) :
    (session.startFind template).AllCalls P := by
  unfold startFind
  split
  next => trivial
  next handle _ =>
    split
    next => trivial
    next => exact (Program.allCalls_request (holds handle)).map _

private theorem calls_endFind (holds : ∀ handle, P (.inSession handle .findObjectsFinal)) :
    session.endFind.AllCalls P := by
  unfold endFind
  split
  next => trivial
  next handle _ => exact (Program.allCalls_request (holds handle)).map _

private theorem calls_collect {handle : Code} {cursor : FindCursor}
    (holds : ∀ max, P (.inSession handle (.findObjects max))) : (collect handle cursor).AllCalls P := by
  fun_induction collect handle cursor with
  | case1 cursor ih =>
    refine ⟨holds _, ?_⟩
    intro reply
    dsimp only
    split
    next => trivial
    next batch _ =>
      split
      next => trivial
      next hnew => exact ih batch hnew

/-- A search of all objects makes the calls of a search. -/
theorem calls_findAll (session : Session) (template : Template) :
    (session.findAll template).AllCalls (Call.From (.findAll template)) := by
  unfold findAll
  apply Program.AllCalls.bind (calls_startFind fun _ => ⟨template, .inr rfl⟩)
  rintro ⟨started, middle⟩
  cases started with
  | error e => trivial
  | ok value =>
    dsimp only
    split
    next => trivial
    next handle _ =>
      apply Program.AllCalls.bind (calls_collect fun _ => .inr ⟨template, rfl⟩)
      intro found
      exact (calls_endFind fun _ => .inr ⟨template, rfl⟩).map _

/-- Every call of a request comes of it. -/
theorem calls_perform (session : Session) (request : Request) :
    (session.perform request).AllCalls (Call.From request) := by
  -- Any request may read attributes, so the requests that do need not be told apart.
  have reads : ∀ handle object types,
      Call.From request (.inSession handle (.getAttributeValue object types)) := fun _ _ _ => trivial
  unfold perform
  cases request with
  | handle => trivial
  | close =>
    refine Program.AllCalls.map ?_ _
    unfold close
    split
    next => trivial
    next =>
      refine Program.AllCalls.map (Program.allCalls_request ?_) _
      rfl
  | isRw =>
    refine Program.AllCalls.map ?_ _
    unfold isRw
    split
    next => trivial
    next =>
      refine Program.AllCalls.map ?_ _
      exact calls_forward fun _ => trivial
  | startFind template => exact (calls_startFind fun _ => ⟨template, .inl rfl⟩).map _
  | find max =>
    refine Program.AllCalls.map ?_ _
    unfold find
    repeat' split
    all_goals first | trivial | exact (Program.allCalls_request (.inl ⟨max, rfl⟩)).map _
  | endFind => exact (calls_endFind fun _ => .inl rfl).map _
  | findAll template => exact (calls_findAll session template).map _
  | start start mechanism =>
    refine Program.AllCalls.map ?_ _
    unfold Session.start
    split
    next => trivial
    next =>
      split
      next => trivial
      next => exact (Program.allCalls_request ⟨mechanism, rfl⟩).map _
  | step step =>
    refine Program.AllCalls.map ?_ _
    unfold Session.step
    split
    next => trivial
    next =>
      split
      next => trivial
      next =>
        refine Program.AllCalls.map (Program.allCalls_request ?_) _
        rfl
  | message step =>
    refine Program.AllCalls.map ?_ _
    unfold Session.message
    split
    next => trivial
    next => exact ⟨rfl, fun _ => trivial⟩
  | readAttribute _ _ => exact (allCalls_readAttribute reads session _ _).map _
  | readBool _ _ | readNumber _ _ | readBytes _ _ | readText _ _ | readBigNat _ _ =>
    exact ((allCalls_readAttribute reads session _ _).map _).map _
  | readAttributes _ _ => exact (allCalls_readAttributes reads session _ _).map _
  | readNumbers _ _ | readBytesList _ _ | readTexts _ _ =>
    exact ((allCalls_readAttributes reads session _ _).map _).map _
  | setOperationState _ _ _ | cancel _ =>
    refine Program.AllCalls.map (Program.AllCalls.map ?_ _) _
    exact calls_forward fun _ => rfl
  | login _ _ =>
    refine Program.AllCalls.map (Program.AllCalls.map ?_ _) _
    exact calls_forward fun _ => trivial
  | randomBytes length =>
    refine Program.AllCalls.map ?_ _
    unfold randomBytes
    split
    next => trivial
    next =>
      split
      next => exact (Program.allCalls_request trivial).map _
      next => trivial
  | _ =>
    refine Program.AllCalls.map ?_ _
    exact calls_forward fun _ => trivial

end Session

end TokenClient
