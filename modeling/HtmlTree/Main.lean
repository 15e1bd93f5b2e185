import HtmlTree.CommandLine

namespace HtmlTree.CommandLine

-- All that is left on a stream.
partial def readToEnd (stream : IO.FS.Stream) (sofar : ByteArray) : IO ByteArray := do
  let chunk ← stream.read 65536
  if chunk.isEmpty then pure sofar else readToEnd stream (sofar ++ chunk)

def readFile? (path : String) : IO (Option (List UInt8)) := do
  try
    let bytes ← IO.FS.readBinFile path
    pure (some bytes.toList)
  catch _ => pure none

def Outcome.deliver : Outcome → IO UInt32
  | .report r => do
    (← IO.getStdout).putStr r.out
    (← IO.getStderr).putStr r.err
    pure r.status.toUInt32
  | .noFile _ => refuse "there is no such file"
  | .noText => refuse "input is not well-formed UTF-8"
  | .unread _ => refuse "input cannot be read"
where
  refuse (reason : String) : IO UInt32 := do
    (← IO.getStderr).putStr (reason ++ "\n")
    pure 1

end HtmlTree.CommandLine

open HtmlTree.CommandLine

def main (args : List String) : IO UInt32 := do
  match Plan.ofArguments args with
  | .report r => (Outcome.report r).deliver
  | .fromInput c =>
    let bytes ← readToEnd (← IO.getStdin) .empty
    (c.runOn bytes.toList).deliver
  | .fromFile path c => (c.runAt path (← readFile? path)).deliver
