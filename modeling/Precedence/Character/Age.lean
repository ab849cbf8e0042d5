import Precedence.Character.Table

namespace Precedence

/-- The version of Unicode that gave each code point its meaning, or `0` where none has. -/
def ageText : String :=
  String.join
    ["1.1:1f6 3.0:4 1.1:1e 3.0:8 3.2 4.0 3.0:12 4.0:3 4.1:b 5.0:e 1.1:59 3.0:5 4.0:2 1.1:2f 3.0 ",
     "1.1:a 3.0:5 4.0:11 1.1:46 3.0:9 3.2 4.0:8 4.1:5 4.0:3 1.1:2 3.0 3.2:d 5.1:4 1.1:2 5.1:2 ",
     "0:2 1.1 5.0:3 1.1 7.0 0:4 1.1:7 0 1.1 0 1.1:14 0 1.1:2c 5.1 1.1:7 3.0 3.2:2 1.1 3.0 1.1 ",
     "3.0 1.1 3.0 1.1 3.0 1.1:12 3.1:2 3.2 4.0:5 4.1:4 3.0 1.1:c 3.0 1.1:42 3.0 1.1:c 3.0 1.1:29 ",
     "5.1 3.0:2 3.2:2 3.0:4 1.1:35 3.2:2 1.1:2 3.2:2 1.1:2 3.2:2 5.0 1.1:1c 3.0:2 1.1:8 4.1:2 ",
     "1.1:2 5.0:6 3.2:10 5.0:4 5.1:10 5.2:2 6.0:2 7.0:8 0 1.1:26 0:2 1.1:7 11.0 1.1:27 11.0 1.1 ",
     "3.0 0:2 7.0:2 6.1 0 2.0:11 4.1 2.0:d 1.1:a 5.0 1.1:9 2.0 4.1:3 0:8 1.1:1b 0:4 11.0 1.1:5 ",
     "0:b 4.0:4 6.1 7.0 5.1:5 4.1 1.1 4.0:9 5.1:5 1.1 6.3 14.0 4.1 1.1 6.0 1.1:1a 5.1:5 1.1:13 ",
     "3.0:3 4.0:3 4.1:6 6.0 1.1:e 3.2:2 1.1:48 3.0:2 1.1:5 3.0 1.1:f 3.0 1.1:1e 4.0:2 1.1:a ",
     "3.0:5 4.0 3.0:e 0 3.0:1e 4.0:3 3.0:1b 0:2 4.0:3 4.1:1e 5.1:12 3.0:31 3.2 0:e 5.0:3b 0:2 ",
     "11.0:3 5.2:2e 0:2 5.2:f 0 6.0:1c 0:2 6.0 0 10.0:b 0:5 14.0:1f 0 14.0:2 0:5 16.0 14.0:8 6.1 ",
     "7.0 6.1:b 7.0:6 8.0:2 14.0 9.0:8 13.0:a 14.0:b 11.0 9.0:f 8.0 6.1:1b 7.0 5.2 1.1:3 4.0 ",
     "1.1:35 6.0:2 1.1:12 5.2 6.0 1.1:5 5.2 6.0:2 1.1:19 5.1:2 6.0:5 7.0 5.2:2 5.0:2 4.1 5.0:2 ",
     "7.0 1.1:3 0 1.1:8 0:2 1.1:2 0:2 1.1:16 0 1.1:7 0 1.1 0:3 1.1:4 0:2 1.1 4.0 1.1:7 0:2 1.1:2 ",
     "0:2 1.1:3 4.1 0:8 1.1 0:4 1.1:2 0 1.1:5 0:2 1.1:15 5.2 10.0:2 11.0 0:2 4.0 1.1 4.0 0 1.1:6 ",
     "0:4 1.1:2 0:2 1.1:16 0 1.1:7 0 1.1:2 0 1.1:2 0 1.1:2 0:2 1.1 0 1.1:5 0:4 1.1:2 0:2 1.1:3 ",
     "0:3 5.1 0:7 1.1:4 0 1.1 0:7 1.1:f 5.1 11.0 0:a 1.1:3 0 1.1:7 4.0 1.1 0 1.1:3 0 1.1:16 0 ",
     "1.1:7 0 1.1:2 0 1.1:5 0:2 1.1:a 0 1.1:3 0 1.1:3 0:2 1.1 0:f 1.1 4.0:3 0:2 1.1:a 6.1 4.0 ",
     "0:7 8.0 10.0:6 0 1.1:3 0 1.1:8 0:2 1.1:2 0:2 1.1:16 0 1.1:7 0 1.1:2 0 4.0 1.1:4 0:2 1.1:8 ",
     "5.1 0:2 1.1:2 0:2 1.1:3 0:7 13.0 1.1:2 0:4 1.1:2 0 1.1:3 5.1:2 0:2 1.1:b 4.0 6.0:6 0:a ",
     "1.1:2 0 1.1:6 0:3 1.1:3 0 1.1:4 0:3 1.1:2 0 1.1 0 1.1:2 0:3 1.1:2 0:3 1.1:3 0:3 1.1:8 4.1 ",
     "1.1:3 0:4 1.1:5 0:3 1.1:3 0 1.1:4 0:2 5.1 0:6 1.1 0:e 4.1 1.1:c 4.0:8 0:5 7.0 1.1:3 11.0 ",
     "1.1:8 0 1.1:3 0 1.1:17 0 1.1:a 7.0 1.1:5 0:2 14.0 5.1 1.1:7 0 1.1:3 0 1.1:4 0:7 1.1:2 0 ",
     "5.1:2 8.0 0:2 14.0 0:2 1.1:2 5.1:2 0:2 1.1:a 0:7 12.0 5.1:8 9.0 7.0 1.1:2 11.0 1.1:8 0 ",
     "1.1:3 0 1.1:17 0 1.1:a 0 1.1:5 0:2 4.0:2 1.1:7 0 1.1:3 0 1.1:4 0:7 1.1:2 0:6 14.0 1.1 0 ",
     "1.1:2 5.0:2 0:2 1.1:a 0 5.0:2 15.0 0:c 10.0 7.0 1.1:2 13.0 1.1:8 0 1.1:3 0 1.1:17 6.0 ",
     "1.1:10 6.0 10.0:2 5.1 1.1:6 5.1 0 1.1:3 0 1.1:4 6.0 9.0 0:4 9.0:3 1.1 9.0:7 8.0 1.1:2 ",
     "5.1:2 0:2 1.1:a 5.1:6 9.0:3 5.1:7 0 13.0 3.0:2 0 3.0:12 0:3 3.0:18 0 3.0:9 0 3.0 0:2 3.0:7 ",
     "0:3 3.0 0:4 3.0:6 0 3.0 0 3.0:8 0:6 7.0:a 0:2 3.0:3 0:c 1.1:3a 0:4 1.1:1d 0:25 1.1:2 0 1.1 ",
     "0 12.0 1.1:2 12.0 1.1 0 12.0 1.1 12.0:6 1.1:4 12.0 1.1:7 12.0 1.1:3 0 1.1 0 1.1 12.0:2 ",
     "1.1:2 12.0 1.1:d 12.0 1.1:3 0:2 1.1:5 0 1.1 0 1.1:6 15.0 0 1.1:a 0:2 1.1:2 6.1:2 0:20 ",
     "2.0:48 0 2.0:21 3.0 5.1:2 0:4 2.0:1b 6.0:4 2.0:6 3.0 2.0 0 2.0:15 3.0:3 2.0:7 3.0 2.0 ",
     "3.0:3 0 3.0:f 0 5.1 3.0 4.1:2 5.1:3 5.2:4 6.0:2 0:25 3.0:22 5.1 3.0:5 5.1 3.0:2 5.1 3.0:7 ",
     "5.1:3 3.0:4 5.1:6 3.0:1a 5.1:40 5.2:4 5.1:2 1.1:26 0 6.1 0:5 6.1 0:2 1.1:27 3.2:2 4.1:2 ",
     "1.1 4.1 6.1:3 1.1:5a 5.2:5 1.1:44 5.2:5 1.1:52 5.2:6 3.0:7 4.1 3.0:3f 4.1 3.0 0 3.0:4 0:2 ",
     "3.0:7 0 3.0 0 3.0:4 0:2 3.0:27 4.1 3.0 0 3.0:4 0:2 3.0:1f 4.1 3.0 0 3.0:4 0:2 3.0:7 0 3.0 ",
     "0 3.0:4 0:2 3.0:7 4.1 3.0:7 0 3.0:17 4.1 3.0:1f 4.1 3.0 0 3.0:4 0:2 3.0:7 4.1 3.0:27 4.1 ",
     "3.0:13 0:2 6.0:2 4.1:2 3.0:1c 0:3 4.1:1a 0:6 3.0:55 8.0 0:2 8.0:6 0:2 5.2 3.0:276 5.2:9 ",
     "3.0:1d 0:3 3.0:51 7.0:8 0:7 3.2:d 14.0 3.2:7 14.0 0:9 14.0 3.2:17 0:9 3.2:14 0:c 3.2:d 0 ",
     "3.2:3 0 3.2:2 0:c 3.0:5d 4.0 0:2 3.0:a 0:6 4.0:a 0:6 3.0:f 14.0 3.0:a 0:6 3.0:58 11.0 0:7 ",
     "3.0:2a 5.1 0:5 5.2:46 0:a 4.0:1d 7.0:2 0 4.0:c 0:4 4.0:c 0:4 4.0 0:3 4.0:2a 0:2 4.0:5 0:b ",
     "4.1:2a 5.2:2 0:4 4.1:1a 0:6 4.1:a 5.2 0:3 4.1:2 4.0:20 4.1:1c 0:2 4.1:2 5.2:3f 0 5.2:1d ",
     "0:2 5.2:b 0:6 5.2:a 0:6 5.2:e 0:2 7.0:f 13.0:2 14.0:e 0:31 5.0:4c 14.0 0 16.0:2 5.0:2d ",
     "14.0:2 16.0 5.1:2b 6.1:3 5.1:c 6.1:6 6.0:34 0:8 6.0:4 5.1:38 0:3 5.1:f 0:3 5.1:33 9.0:9 ",
     "16.0:2 0:5 11.0:2b 0:2 11.0:3 6.1:8 0:8 5.2:23 6.1:4 10.0 7.0:2 12.0 0:5 4.0:6c 4.1:58 ",
     "5.0:7 5.1:1c 7.0:f 10.0:4 14.0 9.0 6.0 5.2 5.0:2 1.1:9b 2.0 5.1:4 1.1:5a 5.1:6 1.1:16 0:2 ",
     "1.1:6 0:2 1.1:26 0:2 1.1:6 0:2 1.1:8 0 1.1 0 1.1 0 1.1 0 1.1:1f 0:2 1.1:35 0 1.1:f 0 1.1:e ",
     "0:2 1.1:6 0 1.1:13 0:2 1.1:3 0 1.1:9 0 1.1:2f 3.0 1.1:17 3.2 3.0:6 3.2:5 4.0:2 4.1:2 3.2 ",
     "4.1:7 3.2:5 5.1 0 6.3:4 1.1:7 3.2 0:2 1.1:1b 0 4.1:5 6.0:8 0:3 1.1:b 2.0 2.1 3.0:3 3.2:2 ",
     "4.1:4 5.2:3 6.0 6.2 7.0:3 8.0 10.0 14.0 0:f 1.1:12 3.0:2 3.2:7 4.1 5.0:4 5.1 0:f 1.1:39 ",
     "3.0:2 4.0 4.1 3.2:f 4.1 5.0:2 5.1 5.2:3 1.1:30 3.0 5.0 5.1:4 5.2 8.0:2 0:4 1.1:5b 3.0:9 ",
     "3.2:c 1.1:f2 3.2:e 1.1 3.0 1.1:79 3.0 3.2 3.0:1e 3.2:34 4.0:2 4.1:b 5.0:c 5.2 6.0:b 7.0:7 ",
     "9.0:4 10.0 1.1:25 3.0:2 16.0:3 0:16 1.1:b 0:15 1.1:8b 3.2:14 4.0 1.1:96 3.2:a 1.1:50 3.0:8 ",
     "3.2:8 1.1:14 4.0:2 3.2:2 4.1 3.0 1.1:56 3.0:2 3.2:c 4.1:2 3.2:a 4.0:8 4.1:b 5.1 5.2:2 ",
     "4.0:2 4.1:10 5.0 5.1:a 5.2:3 5.1:4 5.2:a 6.0 5.2:13 6.0 5.2 6.0:4 5.2:18 7.0 1.1:4 6.0 ",
     "1.1:4 6.0:2 1.1:1c 6.0 1.1:23 6.0 1.1 6.0 1.1:4 6.0:3 1.1 5.2 1.1:7 6.0:2 1.1:7 3.2:e ",
     "1.1:1f 6.0:3 1.1:18 6.0 1.1:e 6.0 4.1:7 5.0:4 6.1 5.1 6.1 6.0:2 3.2:1c 5.1:4 3.2:10 ",
     "3.0:100 3.2:200 4.0:e 4.1:6 5.0:7 5.1:5 5.0:4 5.1:29 7.0:3 5.1:5 5.2:5 7.0:1a 0:2 7.0:20 0 ",
     "13.0 7.0:22 11.0:3 7.0:c 12.0 7.0:8 10.0 11.0:19 8.0:4 11.0:f 12.0 4.1:2f 14.0 4.1:2f 14.0 ",
     "5.0:d 5.1:3 5.2 5.1:3 5.0:4 5.1:6 5.2:2 4.1:6b 5.2:7 6.1:2 0:5 4.1:2d 0 6.1 0:5 6.1 0:2 ",
     "4.1:36 6.1:2 0:7 4.1 6.0 0:e 6.0 4.1:17 0:9 4.1:7 0 4.1:7 0 4.1:7 0 4.1:7 0 4.1:7 0 4.1:7 ",
     "0 4.1:7 0 4.1:7 0 5.1:20 4.1:18 5.1:4 4.1:2 5.1:13 5.2 6.1:a 7.0:7 9.0:2 10.0:5 11.0:5 ",
     "12.0 13.0:3 14.0:b 0:22 3.0:1a 0 3.0:59 0:c 3.0:d6 0:1a 3.0:c 15.1:4 1.1:38 3.0:3 3.2:3 ",
     "3.0 1.1 0 1.1:54 3.2:2 0:2 1.1:6 3.2:2 1.1:5e 3.2 0:5 1.1:28 5.1 10.0 11.0 0 1.1:5e 0 ",
     "1.1:10 3.0:18 6.0:3 13.0:5 4.1:10 5.1:14 16.0:2 0:9 15.1 3.2:10 1.1:1d 4.0:2 0 1.1:24 ",
     "5.2:c 4.0 3.2:f 1.1:1c 4.0:2 4.1 1.1:32 3.2:f 1.1:c 4.0:4 1.1:2f 12.1 1.1:77 4.0:4 1.1:63 ",
     "4.0:2 1.1:1f 4.0 3.0:19b6 13.0:a 4.0:40 1.1:51a6 4.1:16 5.1:8 5.2:8 6.1 8.0:9 10.0:15 ",
     "11.0:5 13.0:d 14.0:3 3.0:48d 0:3 3.0:12 3.2:2 3.0:10 3.2 3.0:c 3.2 3.0:3 3.2 3.0 0:9 ",
     "5.2:30 5.1:12c 0:14 5.1:20 6.0:2 5.1:12 6.1:8 5.1:1c 7.0:6 8.0 6.1 5.2:58 0:8 4.1:17 5.0:4 ",
     "5.1:5 5.0:2 5.1:6b 6.0:2 8.0 6.0:2 6.1:2 7.0:c 6.0:a 6.1 7.0:3 9.0 11.0 7.0:2 8.0:6 11.0:2 ",
     "12.0:6 14.0:2 12.0:5 13.0:4 16.0:3 0:2 14.0:2 0 14.0 0 14.0:5 16.0:3 0:15 14.0:3 13.0:2 ",
     "7.0 6.1:2 6.0 5.1:5 4.1:2c 13.0 0:3 5.2:a 0:6 5.0:38 0:8 5.1:45 9.0 0:8 5.1:c 0:6 5.2:1c ",
     "8.0:2 11.0:2 5.1:54 0:b 5.1 5.2:1d 0:3 5.2:4e 0 5.2:b 0:4 5.2:2 7.0:1f 0 5.1:37 0:9 5.1:e ",
     "0:2 5.1:a 0:2 5.1:4 5.2:1c 7.0:4 5.2:43 0:18 5.2:5 6.1:17 0:a 6.0:6 0:2 6.0:6 0:2 6.0:6 ",
     "0:9 6.0:7 0 6.0:7 0 7.0:30 8.0:4 7.0:2 12.0:2 13.0:4 0:4 8.0:50 5.2:2e 0:2 5.2:a 0:6 ",
     "2.0:2ba4 0:c 5.2:17 0:4 5.2:31 0:804 1.1:1a2e 6.1:2 3.2:3b 5.2:3 0:2 4.1:6a 0:26 1.1:7 0:c ",
     "1.1:5 0:5 3.0 1.1:19 0 1.1:5 0 1.1 0 1.1:2 0 1.1:2 0 1.1:6c 6.0:10 14.0 0:10 1.1:16d ",
     "14.0:10 1.1:40 0:2 1.1:36 0:7 14.0 3.1:20 1.1:c 3.2 4.0 14.0:2 3.2:10 4.1:a 0:6 1.1:4 ",
     "5.1:3 7.0:7 8.0:2 1.1:15 3.2:2 4.0:2 1.1:a 0 1.1:13 0 1.1:4 0:4 1.1:3 3.2 1.1 0 1.1:87 0:2 ",
     "1.1 0 1.1:5e 3.2:2 1.1:5e 0:3 1.1:6 0:2 1.1:6 0:2 1.1:6 0:2 1.1:3 0:3 1.1:7 0 1.1:7 0:a ",
     "3.0:3 2.1 1.1:3 4.0:c 0 4.0:1a 0 4.0:13 0 4.0:2 0 4.0:f 0:2 4.0:e 0:22 4.0:7b 0:5 4.0:3 ",
     "0:4 4.0:2d 0:3 4.0:9 4.1:4b 7.0:2 9.0:2 0 5.1:c 13.0 0:3 7.0 0:2f 5.1:2e 0:82 5.1:1d 0:3 ",
     "5.1:31 0:f 7.0:1c 0:4 3.1:1f 7.0 3.1:4 0:9 10.0:3 3.1:1b 0:5 7.0:2b 0:5 4.0:1e 0 4.0 ",
     "4.1:24 0:4 4.1:e 0:2a 3.1:26 4.0:2 3.1:26 4.0:50 0:2 4.0:a 0:6 9.0:24 0:4 9.0:24 0:4 ",
     "7.0:28 0:8 7.0:34 0:b 7.0 14.0:b 0 14.0:f 0 14.0:7 0 14.0:2 0 14.0:b 0 14.0:f 0 14.0:7 0 ",
     "14.0:2 0:3 16.0:34 0:c 7.0:137 0:9 7.0:16 0:a 7.0:8 0:18 14.0:6 0 14.0:2a 0 14.0:9 0:45 ",
     "4.0:6 0:2 4.0 0 4.0:2c 0 4.0:2 0:3 4.0 0:2 4.0 5.2:16 0 5.2:9 7.0:3f 0:8 7.0:9 0:30 8.0:13 ",
     "0 8.0:2 0:5 8.0:5 5.0:1a 5.2:2 0:3 5.0 5.1:1a 0:5 5.1 0:40 6.1:38 0:4 8.0:2 6.1:2 8.0:10 ",
     "0:2 8.0:2e 4.1:4 0 4.1:2 0:5 4.1:8 0 4.1:3 0 4.1:1b 11.0:2 0:2 4.1:3 0:4 4.1:9 11.0 0:7 ",
     "4.1:9 0:7 5.2:20 7.0:20 0:20 7.0:27 0:4 7.0:c 0:9 5.2:36 0:3 5.2:1d 0:2 5.2:1b 0:5 5.2:8 ",
     "7.0:12 0:7 7.0:4 0:c 7.0:7 0:50 5.2:49 0:37 8.0:33 0:d 8.0:33 0:7 8.0:6 11.0:28 0:8 11.0:a ",
     "0:6 16.0:26 0:3 16.0:1d 0:8 16.0:2 0:d0 5.2:1f 0 13.0:2a 0 13.0:3 0:2 13.0:2 0:10 16.0:3 ",
     "0:37 16.0 15.0:3 11.0:28 0:8 11.0:2a 0:16 14.0:1a 0:26 13.0:1c 0:14 12.0:17 0:9 6.0:4e 0:4 ",
     "6.0:1e 14.0:6 0:9 7.0 5.2:42 14.0 0:a 11.0 0:2 6.1:19 0:7 6.1:a 0:6 6.1:35 0 6.1:e 11.0:3 ",
     "13.0 0:8 7.0:27 0:9 6.1:49 8.0:4 7.0 13.0:2 6.1:a 7.0 8.0:5 0 7.0:14 0:b 7.0:12 0 7.0:2b ",
     "9.0 15.0:3 0:3e 8.0:7 0 8.0 0 8.0:4 0 8.0:f 0 8.0:b 0:6 7.0:3b 0:5 7.0:a 0:6 8.0 7.0:3 0 ",
     "7.0:8 0:2 7.0:2 0:2 7.0:16 0 7.0:7 0 7.0:2 0 7.0:5 0 11.0 7.0:9 0:2 7.0:2 0:2 7.0:3 0:2 ",
     "8.0 0:6 7.0 0:5 7.0:7 0:2 7.0:7 0:3 7.0:5 0:b 16.0:a 0 16.0 0:2 16.0 0 16.0:26 0 16.0:a 0 ",
     "16.0 0:2 16.0 0 16.0:4 0 16.0:a 0 16.0:2 0:8 16.0:2 0:1d 9.0:5a 13.0 9.0 0 9.0 11.0 12.0 ",
     "13.0:2 0:1e 7.0:48 0:8 7.0:a 0:a6 7.0:36 0:2 7.0:12 8.0:14 0:22 7.0:45 0:b 7.0:a 0:6 9.0:d ",
     "0:13 6.1:38 12.0 14.0 0:6 6.1:a 0:6 16.0:14 0:1c 8.0:1a 11.0 0:2 8.0:f 0:4 8.0:10 14.0:7 ",
     "0:b9 11.0:3c 0:64 7.0:53 0:c 7.0 13.0:7 0:2 13.0 0:2 13.0:8 0 13.0:2 0 13.0:1e 0 13.0:2 ",
     "0:2 13.0:c 0:9 13.0:a 0:46 12.0:8 0:2 12.0:2e 0:2 12.0:b 0:1b 10.0:48 0:8 10.0:34 12.0:2 ",
     "10.0:17 11.0 10.0:5 0:d 14.0:10 7.0:39 0:7 15.0:a 0:b6 16.0:22 0:e 16.0:a 0:6 9.0:9 0 ",
     "9.0:2d 0 9.0:e 0:a 9.0:1d 0:3 9.0:20 0:2 9.0:16 0 9.0:e 0:49 10.0:7 0 10.0:2 0 10.0:2c 0:3 ",
     "10.0 0 10.0:2 0 10.0:9 0:8 10.0:a 0:6 11.0:6 0 11.0:2 0 11.0:25 0 11.0:2 0 11.0:6 0:7 ",
     "11.0:a 0:136 11.0:19 0:7 15.0:11 0 15.0:29 0:3 15.0:1c 16.0 0:55 13.0 0:f 12.0:32 0:d 12.0 ",
     "5.0:36f 7.0:2a 8.0 0:66 5.0:63 7.0:c 0 5.0:4 7.0 0:b 8.0:c4 0:a4c 14.0:63 0:d 5.2:42f 15.0 ",
     "12.0:9 15.0:1d 0:a 16.0:f9b 0:5 8.0:247 0:1ab9 16.0:3a 0:6c6 6.0:239 0:7 7.0:1f 0 7.0:a ",
     "0:4 7.0:2 14.0:4f 0 14.0:a 0:6 7.0:1e 0:2 7.0:6 0:a 7.0:46 0:a 7.0:a 0 7.0:7 0 7.0:15 0:5 ",
     "7.0:13 0:1b0 16.0:3a 0:c6 11.0:5b 0:65 6.1:45 12.0:6 0:4 12.0 6.1:2f 12.0:9 0:7 6.1:11 ",
     "0:40 9.0 10.0 12.0:2 13.0 0:b 13.0:2 0:e 9.0:17ed 11.0:5 12.0:6 0:8 9.0:2f3 13.0:1e3 0:29 ",
     "16.0 13.0:9 0:22e7 14.0:4 0 14.0:7 0 14.0:2 0 6.0:2 10.0:11d 14.0:4 0:f 15.0 0:1d 12.0:3 ",
     "0:2 15.0 0:e 12.0:4 0:8 10.0:18c 0:904 7.0:6b 0:5 7.0:d 0:3 7.0:9 0:7 7.0:a 0:2 7.0:8 ",
     "0:f5c 16.0:fa 0:6 16.0:1b4 0:4c 14.0:2e 0:2 14.0:17 0:9 14.0:74 0:3c 3.1:f6 0:a 3.1:27 0:2 ",
     "5.1 3.1:b4 8.0:b 14.0:2 0:15 4.1:46 0:7a 15.0:14 0:c 11.0:14 0:c 4.0:57 0:9 5.0:12 11.0:7 ",
     "0:87 3.1:55 0 3.1:47 0 3.1:2 0:2 3.1 0:2 3.1:2 0:2 3.1:4 0 3.1:c 0 3.1 0 3.1:4 4.0 3.1:2 0 ",
     "3.1:41 0 3.1:4 0:2 3.1:8 0 3.1:7 0 3.1:1c 0 3.1:4 0 3.1:5 0 3.1 0:3 3.1:7 0 3.1:152 4.1:2 ",
     "0:2 3.1:122 5.0:2 0:2 3.1:32 8.0:28c 0:f 8.0:5 0 8.0:f 0:450 14.0:1f 0:6 15.0:6 0:d5 9.0:7 ",
     "0 9.0:11 0:2 9.0:7 0 9.0:2 0 9.0:5 0:5 15.0:3e 0:21 15.0 0:70 12.0:2d 0:3 12.0:e 0:2 ",
     "12.0:a 0:4 12.0:2 0:140 14.0:1f 0:11 12.0:3a 0:5 12.0 0:1d0 15.0:2a 0:d6 16.0:2b 0:4 16.0 ",
     "0:1e0 14.0:7 0 14.0:4 0 14.0:2 0 14.0:f 0 7.0:c5 0:2 7.0:10 0:29 9.0:4b 12.0 0:4 9.0:a 0:4 ",
     "9.0:2 0:311 11.0:44 0:4c 12.0:3d 0:c2 6.1:4 0 6.1:1b 0 6.1:2 0 6.1 0:2 6.1 0 6.1:a 0 6.1:4 ",
     "0 6.1 0 6.1 0:6 6.1 0:4 6.1 0 6.1 0 6.1 0 6.1:3 0 6.1:2 0 6.1 0:2 6.1 0 6.1 0 6.1 0 6.1 0 ",
     "6.1 0 6.1:2 0 6.1 0:2 6.1:4 0 6.1:7 0 6.1:4 0 6.1:4 0 6.1 0 6.1:a 0 6.1:11 0:5 6.1:3 0 ",
     "6.1:5 0 6.1:11 0:34 6.1:2 0:10e 5.1:2c 0:4 5.1:64 0:c 6.0:f 0:2 6.0:e 7.0 0 6.0:f 0 6.0:f ",
     "7.0:16 0:a 5.2:b 7.0:2 13.0:3 5.2:1f 11.0 6.0 5.2 6.0:b 5.2 6.0 5.2 6.0:2 5.2 6.0:3 5.2 ",
     "6.0:3 5.2:5 6.0:8 5.2 6.0:7 5.2 6.0:a 6.1:2 12.0 13.0:3 6.0:9 5.2 6.0 5.2:2 6.0:2 5.2 ",
     "6.0:a 5.2:4 6.0:2 5.2 6.0:a 9.0:12 13.0 0:38 6.0:1a 5.2 6.0:2 0:d 5.2:22 6.0:9 9.0 0:4 ",
     "5.2:9 0:7 6.0:2 0:e 10.0:6 0:9a 6.0:21 7.0:c 8.0:3 6.0:6 7.0 6.0:46 7.0 8.0:2 6.0:14 7.0:c ",
     "6.0:25 7.0 6.0:5 7.0:4 8.0:5 7.0:c 6.0:11 7.0:7 8.0:8 6.0:3f 7.0 6.0 7.0 6.0:b6 7.0 6.0:4 ",
     "7.0:2 8.0 6.0:3e 7.0:2 6.1:4 7.0:7 8.0:5 6.0:18 7.0:12 9.0 7.0:29 9.0 7.0:56 6.0:5 6.1 ",
     "6.0:10 6.1 6.0:3 6.1 6.0 6.1 6.0 6.1 6.0 6.1 6.0:3 6.1 6.0:6 6.1:2 6.0:4 6.1 6.0 6.1:2 ",
     "6.0:4 6.1 6.0:c 7.0:2 8.0:2 6.0:b 7.0:30 6.0:46 7.0:a 8.0 9.0:2 10.0:2 12.0 13.0:2 0:4 ",
     "15.0 14.0:3 7.0:d 0:3 7.0:4 9.0:3 10.0:2 11.0 12.0 13.0:2 0:3 6.0:74 15.0:3 0:4 15.0:5 ",
     "7.0:55 11.0:4 15.0 0:6 12.0:c 0:4 14.0 0:f 7.0:c 0:4 7.0:38 0:8 7.0:a 0:6 7.0:28 0:8 ",
     "7.0:1e 0:2 13.0:2 16.0:a 0:4 16.0:2 0:3e 10.0:c 13.0 12.0:3 8.0:9 9.0:6 10.0 9.0:8 10.0:8 ",
     "9.0 10.0:2 9.0:c 12.0 9.0:c 10.0 11.0:3 9.0:f 10.0:d 11.0:5 12.0 13.0 11.0:4 13.0:2 14.0 ",
     "11.0 12.0 11.0:4 8.0:5 9.0:d 10.0:6 11.0:b 13.0:2 12.0:6 13.0:3 12.0:2 11.0:a 12.0:6 8.0 ",
     "11.0:2 12.0:8 13.0 14.0 12.0:3 10.0:17 11.0:19 12.0:54 0:c 11.0:e 0:2 12.0:4 13.0 15.0:3 ",
     "12.0:3 14.0:2 0:3 12.0:3 13.0:4 15.0:2 16.0 0:5 16.0 12.0:6 13.0:13 14.0:4 15.0:3 13.0:7 ",
     "14.0:4 15.0:3 16.0 15.0 13.0:3 14.0:3 16.0 0:7 15.0:2 13.0:7 14.0:3 15.0:2 16.0 0:2 16.0 ",
     "14.0:8 15.0 16.0 0:6 14.0:7 15.0:2 0:7 13.0:93 0 13.0:37 16.0:25 13.0:a 0:404 2.0:2 ",
     "3.1:a6d7 13.0:7 14.0:2 0:20 5.2:1035 14.0:4 15.0 0:6 6.0:de 0:2 8.0:1682 0:e 10.0:1d31 0:f ",
     "15.1:26e 0:9a2 3.1:21e 0:5e0 2.0:2 13.0:134b 0:5 15.0:1060 0:dc4e 2.0:2 0:fffe 2.0:2 ",
     "0:fffe 2.0:2 0:fffe 2.0:2 0:fffe 2.0:2 0:fffe 2.0:2 0:fffe 2.0:2 0:fffe 2.0:2 0:fffe 2.0:2 ",
     "0:fffe 2.0:2 0:fffe 2.0:2 0 3.1 0:1e 3.1:60 0:80 4.0:f0 0:fe0e 2.0:20002"]

/-- The versions of Unicode that gave code points a meaning, in order. -/
def ageVersions : List String :=
  ["1.1", "2.0", "2.1", "3.0", "3.1", "3.2", "4.0", "4.1", "5.0", "5.1", "5.2", "6.0", "6.1", "6.2",
   "6.3", "7.0", "8.0", "9.0", "10.0", "11.0", "12.0", "12.1", "13.0", "14.0", "15.0", "15.1",
   "16.0"]

/-- A version may be named as in `6.1`, or as in `V6_1`, whose plain form is `v61`. -/
def namesVersion (name version : String) : Bool :=
  name == version || name.toList == 'v' :: version.toList.filter (· != '.')

/-- The code points that had a meaning by a version. -/
def Charset.ofAge? (name : String) : Option Charset :=
  let earlier := ageVersions.takeWhile (!namesVersion name ·)
  if earlier.length < ageVersions.length then
    some (ofRuns ageText (ageVersions.take (earlier.length + 1)))
  else none

end Precedence
