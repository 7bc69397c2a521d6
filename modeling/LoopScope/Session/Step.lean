import LoopScope.Codec.Event
import LoopScope.Session.Operators
/-!
# Steps and runs

`Session.step` answers one call, and `Session.runBy` makes a sequence of them. What holds after
every step of a run from an empty session holds in all sessions that a client can reach.
-/
namespace LoopScope.Session

/-- Answers one call. Schemas that it makes are fingerprinted with `digest`. -/
def stepBy (digest : Layout.DigestFunction) (s : Session) : Call → Answer × Session
  | .schema as slots => s.schemaCall digest as slots
  | .arguments as values => s.argumentsCall as values
  | .dropArguments name => s.dropArgumentsCall name
  | .record as schema parent none => s.recordCall as schema parent
  | .record as schema parent (some arguments) => s.recordOverCall as schema parent arguments
  | .root as schema => s.recordCall as schema (.value .null)
  | .cloneRecord as record => s.cloneRecordCall as record
  | .alias as record => s.aliasCall as record
  | .drop record => s.dropCall record
  | .get record binding => s.query record fun r => answerOr .value (s.store.get r binding)
  | .set record binding value => s.setCall record binding value
  | .parent record => s.query record fun r => answerOr .value (s.store.parent r)
  | .slot record index =>
    s.query record fun r =>
      answerOr (fun record => .optionalValue (record.slot? index)) (s.store.toRead r)
  | .put record index value => s.putCall record index value
  | .snapshot record => s.query record fun r => answerOr .snapshot (s.store.snapshot r)
  | .info record => s.query record s.infoOf
  | .holders record => s.query record fun r => .count (s.store.holders r)
  | .sameRecord a b => s.sameRecordCall a b
  | .sameArguments a b => s.queryPair a b fun a b => .flag (a.arguments == b.arguments)
  | .sameSchema a b =>
    s.queryPair a b fun a b =>
      .sameness (a.schema.number == b.schema.number) (a.schema.schema == b.schema.schema)
  | .conforms record schema => s.conformsCall record schema
  | .equal a b => s.equalCall a b
  | .render value =>
    match s.operand? value with
    | some value => (.value value, s)
    | none => (.unbound, s)
  | .lend record mode => s.lendCall record mode
  | .endLoan => s.endLoanCall
  | .reader as index => (.done, { s with readers := s.readers.insert as (.fresh index) })
  | .writer as index => (.done, { s with writers := s.writers.insert as (.fresh index) })
  | .read record accessor => s.readCall record accessor
  | .write record accessor value => s.writeCall record accessor value
  | .cloneReader as accessor => s.cloneReaderCall as accessor
  | .cloneWriter as accessor => s.cloneWriterCall as accessor
  | .accessors schema => s.accessorsCall schema
  | .operator as config context source => s.operatorCall digest as config context source
  | .cloneOperator as operator => s.cloneOperatorCall as operator
  | .materialize as operator source => s.materializeCall as operator source
  | .copyInto operator destination source => s.copyIntoCall operator destination source
  | .events operator => s.queryOperator operator fun op => .events op.log
  | .drain operator => s.drainCall operator
  | .lines operator => s.queryOperator operator fun op => .text (Event.renderLines op.log)
  | .profiles operator =>
    s.queryOperator operator fun op =>
      .profiles (op.reads.map Accessor.profile) (op.writes.map Accessor.profile)
  | .operatorInfo operator other => s.operatorInfoCall operator other

def step (s : Session) (call : Call) : Answer × Session := s.stepBy Sha256.digest call

/-- The session after a sequence of calls. -/
def runBy (digest : Layout.DigestFunction) (s : Session) (calls : List Call) : Session :=
  calls.foldl (fun s call => (s.stepBy digest call).2) s

/-- The sessions that calls can lead to from an empty one, with or without debug checks. -/
def Reachable (digest : Layout.DigestFunction) (s : Session) : Prop :=
  ∃ debugChecks calls, s = runBy digest (empty debugChecks) calls

end LoopScope.Session
