import BracketQuery.Text.Runs

/-!
Data of the Unicode standard about the characters of domain names: the direction in which they are
written, and how they join their neighbours. Where the runs of several tables hold a character, the
first of the tables counts.
-/

namespace BracketQuery.Url

/-- Marks that have the direction of letters from left to right. -/
def leftwardMarks : List Text.Run := Text.Run.table
  "
  cbf cc6 11a07-11a08 11c3f"

/-- Arabic digits. -/
def arabicDigits : List Text.Run := Text.Run.table
  "
  660-669 66b-66c 10d30-10d49 10e60-10e7e"

/-- European digits. -/
def europeanDigits : List Text.Run := Text.Run.table
  "
  30-39 6f0-6f9 102e1-102fb"

/-- Characters without a direction. -/
def undirected : List Text.Run := Text.Run.table
  "
  0-8 e-1b 21-40 5b-60 7b-d7 f7 2b9-2ba 2c2-2cf 2d2-2ed 2ef-2ff 375 3f6 58a-58f 606-607 609-60a 60c
  60e-60f 66a 6de 6e9 7f6-7f9 9f2-9f3 9fb af1 bf3-bfa c78-c7e e3f f3a-f3d 1390-1399 1400 169b-169c
  17db 17f0-180a 1940-1945 19de-19ff 200c-214d 218a-2335 237b-2394 2396-26ab 26ad-27ff 2900-2bff
  2ce5-2cea 2cf9-2cff 2e00-3004 3008-3020 3030 3037 303d-303f 30a0 30fb 31c0-31e5 4dc0-4dff
  a490-a4c6 a60d-a60f a673-a67f a700-a721 a788 a828-a82b a838-a839 a874-a877 ab6a-ab6b fbc3-fe46
  10101 10140-1018c 10190-101a0 1091f 10b39-10b3f 10d6e 10ed0-10ed8 11052-11065 11660-1166c
  11fd5-11ff1 16fe2 1cc00-1cef0 1d1e9-1d245 1d300-1d356 1e2ff 1eef0-1f12f 1f16d-1f16f 1f1ad
  1f260-1fbfa"

/-- Letters that are written from right to left. -/
def rightToLeft : List Text.Run := Text.Run.table
  "
  5be-8c9 fbb2-fe73 10800-10ff6 1e800-1ed3d"

/-- Letters that join both of their neighbours. -/
def dualJoining : List Text.Run := Text.Run.table
  "
  620 626 628 62a-62e 633-63f 641-647 649-64a 66e-66f 678-687 69a-6bf 6c1-6c2 6cc 6ce 6d0-6d1
  6fa-6fc 6ff 712-714 71a-71d 71f-727 729 72b 72d-72e 74e-758 75c-76a 76d-770 772 775-777 77a-77f
  7ca-7ea 841-845 848 84a-853 855 860 862-865 868 886 889-88d 88f 8a0-8a9 8af-8b0 8b3-8b8 8ba-8c8
  1807 1820-1878 1887-18a8 18aa a840-a871 10ac0-10ac4 10ad3-10ad6 10ad8-10adc 10ade-10ae0
  10aeb-10aee 10b80 10b82 10b86-10b88 10b8a-10b8b 10b8d 10b90 10bad-10bae 10d01-10d21 10d23
  10ec3-10ec4 10ec6-10ec7 10f30-10f32 10f34-10f44 10f51-10f53 10f70-10f73 10f76-10f81 10fb0
  10fb2-10fb3 10fb8 10fbb-10fbc 10fbe-10fbf 10fc1 10fc4 10fca 1e900-1e943"

/-- Letters that join the one before them. -/
def rightJoining : List Text.Run := Text.Run.table
  "
  622-625 627 629 62f-632 648 671-673 675-677 688-699 6c0 6c3-6cb 6cd 6cf 6d2-6d3 6d5 6ee-6ef 710
  715-719 71e 728 72a 72c 72f 74d 759-75b 76b-76c 771 773-774 778-779 840 846-847 849 854 856-858
  867 869-882 88e 8aa-8ac 8ae 8b1-8b2 8b9 10ac5 10ac7 10ac9-10aca 10ace-10ad2 10add 10ae1 10ae4
  10aef 10b81 10b83-10b85 10b89 10b8c 10b8e-10b8f 10b91 10ba9-10bac 10d22 10ec2 10f33 10f54
  10f74-10f75 10fb4-10fb6 10fb9-10fba 10fbd 10fc2-10fc3 10fc9"

/-- Letters that join the one behind them. -/
def leftJoining : List Text.Run := Text.Run.table
  "
  a872 10acd 10ad7 10d00 10fcb"

end BracketQuery.Url
